import GoMend.Proofs.Sync.Names
import GoMend.Proofs.Volume.Agreement

/-!
# Runs that are repeated

What a run gathers depends on the source directory alone, once the build directory is clear, and
the names that it hands over depend on what was gathered alone.  A run changes nothing in the
source directory, so a second one comes to the same records, hands over the same names, and finds
none to take away.
-/

namespace GoMend

open Disk Volume

variable {workDir : Location} {shown : Location → Prop} {dir : Path}

/-! ## Gathering -/

namespace Disk

/-- Files that are shown are copied alike into a directory in which they do not lie. -/
theorem agrees_copyInto (nonempty : dir.text ≠ "") {sources : List Path}
    (shows : ∀ source ∈ sources, shown (source.location workDir) ∧
      source.location workDir ≠ dir.location workDir ++ [source.fileName]) :
    Agrees workDir shown (fun _ => True) (copyInto dir sources) := by
  refine .mapM fun source member => ?_
  obtain ⟨isShown, apart⟩ := shows source member
  exact (agrees_copy nonempty source.slash_fileName isShown apart).bind fun _ _ => .pure trivial

theorem agrees_filesMatching (shows : ∀ name, shown (dir.location workDir ++ [name]))
    (pattern : Matcher) :
    Agrees workDir shown (fun paths => ∀ path ∈ paths, dir.text ≠ "" ∧ ∃ name, ProperName name ∧
      path = dir.join name) (filesMatching dir pattern) :=
  (agrees_files shows).bind fun _ listed => .pure fun path member =>
    listed path (List.mem_of_mem_filter member)

theorem agrees_extract {compiler : PatternCompiler} (nonempty : dir.text ≠ "") {source : Path}
    (shows : ∀ name, shown (source.location workDir ++ [name]))
    (apart : source.location workDir ≠ dir.location workDir) (pattern : String) :
    Agrees workDir shown (fun _ => True) (extract compiler pattern source dir) := by
  refine (Agrees.ofExcept fun _ _ => trivial).bind fun pattern _ => ?_
  refine (agrees_makeDirectories dir).bind fun _ _ => ?_
  refine (agrees_filesMatching shows pattern).bind fun paths listed => ?_
  refine agrees_copyInto nonempty fun path member => ?_
  obtain ⟨sourceNonempty, name, proper, rfl⟩ := listed path member
  rw [Path.location_join _ sourceNonempty proper.slash, proper.follow]
  exact ⟨shows name, fun same => apart (List.append_inj_left' same rfl)⟩

end Disk

namespace Pipeline

variable {pipeline : Pipeline} {name : String}

theorem agrees_publish (nonempty : dir.text ≠ "") (published : '/' ∉ pipeline.published.toList)
    (shows : ∀ name, shown (dir.location workDir ++ [name])) (proper : ProperName name) :
    Agrees workDir shown (fun _ => True) (pipeline.publish (dir.join name)) := by
  obtain ⟨parent, beside, target⟩ := publishedPath_join nonempty proper
  have isShown : shown ((dir.join name).location workDir) := by
    rw [Path.location_join _ nonempty proper.slash, proper.follow]
    exact shows name
  refine (agrees_load isShown).bind fun source _ => ?_
  cases pipeline.transform source with
  | mk result moved =>
      refine (Agrees.ofExcept fun _ _ => trivial).bind fun record _ => ?_
      dsimp only
      rw [target]
      refine (agrees_writeText beside.nonempty
        (slash_publishedName published proper.slash) _).bind fun _ _ => ?_
      split
      · exact .pure trivial
      · exact (agrees_remove nonempty proper).bind fun _ _ => .pure trivial

theorem agrees_publishAll (nonempty : dir.text ≠ "")
    (published : '/' ∉ pipeline.published.toList)
    (shows : ∀ name, shown (dir.location workDir ++ [name])) :
    Agrees workDir shown (fun _ => True) (pipeline.publishAll dir) := by
  refine (agrees_list shows).bind fun paths listed => ?_
  refine (Agrees.mapM fun path member => ?_).bind fun _ _ => .pure trivial
  obtain ⟨-, name, proper, rfl⟩ := listed path member
  exact agrees_publish nonempty published shows proper

end Pipeline

namespace Config

variable {compiler : PatternCompiler} {config : Config} {volume final : Volume} {name : String}

/-- The files that a run gathers are told by the source and the build directory. -/
theorem agrees_gather (nonempty : config.directories.buildDir.text ≠ "")
    (published : '/' ∉ config.patterns.published.toList)
    (apart : config.directories.sourceDir.location workDir ≠
      config.directories.buildDir.location workDir) :
    Agrees workDir (fun location =>
      (config.directories.sourceDir.location workDir).Directly location ∨
        (config.directories.buildDir.location workDir).Directly location) (fun _ => True)
      (config.gather compiler) := by
  refine (Agrees.forM fun pattern _ => (agrees_extract nonempty
    (fun name => .inl ⟨name, rfl⟩) apart pattern).bind fun _ _ => .pure trivial).bind fun _ _ => ?_
  refine (Agrees.ofExcept fun _ => published_of_pipeline).bind fun pipeline same => ?_
  exact Pipeline.agrees_publishAll nonempty (same ▸ published) fun name => .inr ⟨name, rfl⟩

/-! ## Clearing -/

/-- The build directory is either found, or nothing stands where it goes. -/
def Reached (config : Config) (volume : Volume) : Prop :=
  volume.holds config.directories.buildDir = true ∨
    volume.at? (config.directories.buildDir.location volume.workDir) = none

/-- A build directory that is found, or missing, holds no file after it was made anew. -/
theorem hasFile_prepare (name : String) (tree : volume.IsTree) (reached : config.Reached volume)
    (prepared : config.prepare volume = .ok () final) :
    final.hasFile (config.directories.buildDir.location volume.workDir) name = false := by
  obtain ⟨_, cleared, isCleared, made⟩ := bind_eq_ok.1 prepared
  obtain ⟨-, spares⟩ := (stays_removeTree config.directories.buildDir).of_ok tree isCleared
  rw [hasFile_makeDirectories spares.tree made, hasFile, Bool.eq_false_iff, ne_eq, isSome_fileAt?]
  rintro ⟨content, stands⟩
  rw [removeTree_run] at isCleared
  split at isCleared
  · obtain ⟨_, emptied, first, second⟩ := bind_eq_ok.1 isCleared
    obtain ⟨-, rfl⟩ := clearDirectory_eq_ok (change_eq_ok.1 first)
    obtain rfl := dropDirectory_eq_ok (change_eq_ok.1 second)
    have inside := Location.inside_concat
      (config.directories.buildDir.location volume.workDir) name
    change (Volume.erase (config.directories.buildDir.location volume.workDir) _).at? _ = _
      at stands
    rw [at?_erase_other inside.apart, at?_eraseBelow_inside inside] at stands
    cases stands
  · rename_i lost
    cases isCleared
    -- nothing lies in what is not there
    have above := tree.parents _ (mem_of_at? (by simp) stands)
    rw [List.dropLast_concat, isDirectory_iff, reached.resolve_left lost] at above
    cases above

/-! ## One run -/

/-- The steps of a run that succeeds, with the volumes between them. -/
structure Steps (compiler : PatternCompiler) (config : Config) (volume : Volume) (report : Report)
    (final : Volume) where
  cleared : Volume
  gathered : Volume
  copied : Volume
  healed : Volume
  assembled : Volume
  targets : List Path
  managed : Matcher
  prepare : config.prepare volume = .ok () cleared
  gather : config.gather compiler cleared = .ok report.records gathered
  copyDependencies : Disk.copyDependencies config.package.dependencies
    config.directories.projectDir config.directories.buildDir gathered = .ok targets copied
  heal : config.origin.heal .undefinedNames config.maxRounds config.directories.buildDir copied =
    .ok report.repairs healed
  emit : config.table.emit report.records config.directories.buildDir healed =
    .ok report.table assembled
  isManaged : compiler.compile config.patterns.managed = .ok managed
  promote : Disk.promote config.directories.buildDir config.directories.projectDir managed
    assembled = .ok report.removed final

theorem exists_steps {report : Report} (ends : config.run compiler volume = .ok report final) :
    Nonempty (config.Steps compiler volume report final) := by
  obtain ⟨⟨records, repairs, table⟩, assembled, isAssembled, ends⟩ := bind_eq_ok.1 ends
  obtain ⟨managed, _, parsed, ends⟩ := bind_eq_ok.1 ends
  obtain ⟨isManaged, rfl⟩ := ofExcept_eq_ok.1 parsed
  obtain ⟨removed, _, promote, told⟩ := bind_eq_ok.1 ends
  obtain ⟨rfl, rfl⟩ := pure_eq_ok.1 told
  rw [assemble_eq] at isAssembled
  obtain ⟨_, cleared, prepare, isAssembled⟩ := bind_eq_ok.1 isAssembled
  obtain ⟨_, gathered, gather, isAssembled⟩ := bind_eq_ok.1 isAssembled
  obtain ⟨targets, copied, copyDependencies, isAssembled⟩ := bind_eq_ok.1 isAssembled
  obtain ⟨_, healed, heal, isAssembled⟩ := bind_eq_ok.1 isAssembled
  obtain ⟨_, _, emit, told⟩ := bind_eq_ok.1 isAssembled
  obtain ⟨same, rfl⟩ := pure_eq_ok.1 told
  cases same
  exact ⟨⟨cleared, gathered, copied, healed, _, targets, managed, prepare, gather,
    copyDependencies, heal, emit, isManaged, promote⟩⟩

/-- The steps of a run make it up. -/
theorem Steps.run {report : Report} (steps : config.Steps compiler volume report final) :
    config.run compiler volume = .ok report final := by
  have assembled : config.assemble compiler volume =
      .ok (report.records, report.repairs, report.table) steps.assembled := by
    rw [assemble_eq]
    refine bind_eq_ok.2 ⟨_, _, steps.prepare, bind_eq_ok.2 ⟨_, _, steps.gather, ?_⟩⟩
    refine bind_eq_ok.2 ⟨_, _, steps.copyDependencies, bind_eq_ok.2 ⟨_, _, steps.heal, ?_⟩⟩
    exact bind_eq_ok.2 ⟨_, _, steps.emit, rfl⟩
  refine bind_eq_ok.2 ⟨_, _, assembled, bind_eq_ok.2 ⟨_, _, ofExcept_eq_ok.2
    ⟨steps.isManaged, rfl⟩, ?_⟩⟩
  exact bind_eq_ok.2 ⟨_, _, steps.promote, rfl⟩

/-- The directories that handing over finds are there after it. -/
theorem conserves_promote (build project : Path) (managed : Matcher) :
    Conserves isDirectory (Disk.promote build project managed) :=
  ((conserves_files project).bind fun _ => .pure _).bind fun _ => (conserves_files build).bind
    fun _ => (Disk.conserves_makeDirectories project).bind fun _ =>
      (Conserves.mapM (fun _ => (conserves_copy _ _).bind fun _ => .pure _) _).bind fun _ =>
        (Conserves.forM conserves_remove _).bind fun _ => .pure _

/-- What a run needs that writes nothing outside of its directories. -/
structure Plain (config : Config) (workDir : Location) : Prop where
  apart : config.Apart workDir
  table : '/' ∉ config.package.tableFile.toList
  published : '/' ∉ config.patterns.published.toList
  unnumbered : config.directories.buildDir.Unnumbered

namespace Steps

variable {report : Report}

/-- Where the steps of a run write. -/
structure Frames (steps : config.Steps compiler volume report final) : Prop where
  prepare : Spares (config.directories.buildDir.location volume.workDir).Inside
    volume steps.cleared
  gather : Spares (config.directories.buildDir.location volume.workDir).Inside
    steps.cleared steps.gathered
  copyDependencies : Spares (config.directories.buildDir.location volume.workDir).Inside
    steps.gathered steps.copied
  heal : Spares (config.directories.buildDir.location volume.workDir).Inside
    steps.copied steps.healed
  emit : Spares (config.directories.buildDir.location volume.workDir).Inside
    steps.healed steps.assembled
  promote : Spares (config.directories.projectDir.location volume.workDir).Directly
    steps.assembled final

theorem frames (steps : config.Steps compiler volume report final)
    (plain : config.Plain volume.workDir)
    (tree : volume.IsTree) : steps.Frames := by
  have prepare := ((stays_prepare config).of_ok tree steps.prepare).2
  have gather := ((stays_gather plain.apart.build plain.published).of_ok prepare.tree
    steps.gather).2
  rw [prepare.workDir] at gather
  have copyDependencies := ((stays_copyDependencies plain.apart.build _ _).of_ok gather.tree
    steps.copyDependencies).2
  rw [gather.workDir, prepare.workDir] at copyDependencies
  have heal := ((Origin.stays_healRounds plain.apart.build plain.unnumbered _ _ _ _).of_ok
    copyDependencies.tree steps.heal).2
  rw [copyDependencies.workDir, gather.workDir, prepare.workDir] at heal
  have emit := ((stays_emit plain.apart.build plain.table _).of_ok heal.tree steps.emit).2
  rw [heal.workDir, copyDependencies.workDir, gather.workDir, prepare.workDir] at emit
  have promote := ((stays_promote plain.apart.project _ _).of_ok emit.tree steps.promote).2
  rw [emit.workDir, heal.workDir, copyDependencies.workDir, gather.workDir, prepare.workDir]
    at promote
  exact ⟨prepare, gather.mono Location.Directly.inside,
    copyDependencies.mono Location.Directly.inside, heal, emit.mono Location.Directly.inside,
    promote⟩

theorem Frames.healed {steps : config.Steps compiler volume report final}
    (frames : steps.Frames) :
    Spares (config.directories.buildDir.location volume.workDir).Inside volume steps.healed :=
  ((frames.prepare.trans frames.gather).trans frames.copyDependencies).trans frames.heal

theorem Frames.assembled {steps : config.Steps compiler volume report final}
    (frames : steps.Frames) :
    Spares (config.directories.buildDir.location volume.workDir).Inside volume steps.assembled :=
  frames.healed.trans frames.emit

theorem Frames.works {steps : config.Steps compiler volume report final} (frames : steps.Frames) :
    final.workDir = volume.workDir := by
  rw [frames.promote.workDir, frames.assembled.workDir]

theorem Frames.unique {steps : config.Steps compiler volume report final} (frames : steps.Frames)
    (unique : volume.Unique) : final.Unique :=
  frames.promote.unique (frames.assembled.unique unique)

/-- A run changes nothing directly in the source directory, unless that is the project. -/
theorem Frames.source {steps : config.Steps compiler volume report final} (frames : steps.Frames)
    (plain : config.Plain volume.workDir)
    (apart : config.directories.sourceDir.location volume.workDir ≠
      config.directories.projectDir.location volume.workDir) (name : String) :
    final.fileAt? (config.directories.sourceDir.location volume.workDir ++ [name]) =
      volume.fileAt? (config.directories.sourceDir.location volume.workDir ++ [name]) := by
  rw [frames.promote.files, frames.assembled.files]
  · exact fun inside => plain.apart.outside _ (by simp) inside.of_concat
  · rintro ⟨other, same⟩
    exact apart (List.append_inj_left' same rfl)

/-- Whether files of the name are handed over by a run. -/
def hands (steps : config.Steps compiler volume report final) (name : String) : Bool :=
  steps.gathered.hasFile (config.directories.buildDir.location volume.workDir) name ||
    ((config.package.dependencies.map config.directories.projectDir.join).map
      Path.fileName).contains name || name == config.package.tableFile

variable (steps : config.Steps compiler volume report final) (plain : config.Plain volume.workDir)
  (tree : volume.IsTree)

include steps plain tree

/-- Healing adds no name to those that were gathered, copied and emitted. -/
theorem hasFile_assembled :
    report.table = config.table.path config.directories.buildDir ∧
    steps.assembled.isDirectory (config.directories.buildDir.location volume.workDir) = true ∧
    ∀ name, steps.assembled.hasFile (config.directories.buildDir.location volume.workDir) name =
      steps.hands name := by
  have frames := steps.frames plain tree
  obtain ⟨path, isDirectory, emitted⟩ := Table.hasFile_emit frames.heal.tree
    plain.apart.build plain.table steps.emit
  rw [frames.heal.workDir, frames.copyDependencies.workDir, frames.gather.workDir,
    frames.prepare.workDir] at isDirectory emitted
  refine ⟨path, isDirectory, fun name => ?_⟩
  have copied := hasFile_copyDependencies name frames.gather.tree plain.apart.build
    steps.copyDependencies
  have healed := Origin.isSome_healRounds Analyzer.undefinedNames_settled steps.heal
    (config.directories.buildDir.location volume.workDir ++ [name])
  rw [frames.gather.workDir, frames.prepare.workDir] at copied
  rw [emitted, hasFile, healed, ← hasFile, copied]
  rfl

/-- Until files are handed over, the names in the project are those before the run. -/
theorem hasFile_project (name : String) :
    steps.assembled.hasFile (config.directories.projectDir.location volume.workDir) name =
      volume.hasFile (config.directories.projectDir.location volume.workDir) name :=
  hasFile_congr ((steps.frames plain tree).assembled.files _ fun inside =>
    plain.apart.outside _ (by simp) inside.of_concat)

/-- The names in the project behind a run, and those that it has taken away. -/
theorem handed (unique : volume.Unique) :
    report.removed = ((volume.fileNames
      (config.directories.projectDir.location volume.workDir)).filter fun name =>
        steps.managed.occursIn name && !steps.hands name).map
          config.directories.projectDir.join ∧
    ∀ name, final.hasFile (config.directories.projectDir.location volume.workDir) name =
      (steps.hands name ||
        (volume.hasFile (config.directories.projectDir.location volume.workDir) name &&
          !steps.managed.occursIn name)) := by
  have spares := (steps.frames plain tree).assembled
  obtain ⟨-, -, built⟩ := steps.hasFile_assembled plain tree
  obtain ⟨-, removed, names⟩ := promote_eq_ok spares.tree (spares.unique unique) steps.promote
  rw [spares.workDir] at removed names
  rw [fileNames_congr (spares.unique unique) unique
    (steps.hasFile_project plain tree)] at removed
  refine ⟨?_, fun name => ?_⟩
  · rw [removed]
    simp only [built]
  · rw [names, built, steps.hasFile_project plain tree]

/-- The build directory is found after a run. -/
theorem holds (unique : volume.Unique) : final.holds config.directories.buildDir = true := by
  have frames := steps.frames plain tree
  have spares := frames.assembled
  obtain ⟨holds, -, -⟩ := promote_eq_ok spares.tree (spares.unique unique) steps.promote
  refine holds_mono ((conserves_promote _ _ _).of_ok steps.promote) ?_ holds ?_
  · rw [frames.promote.workDir]
  · rw [spares.workDir]
    exact (steps.hasFile_assembled plain tree).2.1

end Steps

/-! ## Two runs -/

namespace Steps

variable {report again : Report} {between : Volume}

/-- Both runs see the same files where they gather: in the source directory, which the first one
does not change, and in the build directory, which each of them clears. -/
theorem alike_cleared (steps : config.Steps compiler volume report between)
    (steps' : config.Steps compiler between again final) (plain : config.Plain volume.workDir)
    (tree : volume.IsTree) (unique : volume.Unique) (reached : config.Reached volume)
    (apart : config.directories.sourceDir.location volume.workDir ≠
      config.directories.projectDir.location volume.workDir) :
    Alike (fun location =>
      (config.directories.sourceDir.location volume.workDir).Directly location ∨
        (config.directories.buildDir.location volume.workDir).Directly location)
      steps.cleared steps'.cleared := by
  have frames := steps.frames plain tree
  have works := frames.works
  have frames' := steps'.frames (works ▸ plain) frames.promote.tree
  refine ⟨frames.prepare.tree, frames'.prepare.tree, frames.prepare.unique unique,
    frames'.prepare.unique (frames.unique unique), ?_, ?_⟩
  · rw [frames'.prepare.workDir, works, frames.prepare.workDir]
  · rintro location (⟨name, rfl⟩ | ⟨name, rfl⟩)
    · have outside : ¬(config.directories.buildDir.location volume.workDir).Inside
          (config.directories.sourceDir.location volume.workDir ++ [name]) :=
        fun inside => plain.apart.outside _ (by simp) inside.of_concat
      rw [frames.prepare.files _ outside, ← frames.source plain apart name,
        frames'.prepare.files]
      rw [works]
      exact outside
    · have empty := hasFile_prepare name tree reached steps.prepare
      have empty' := hasFile_prepare name frames.promote.tree
        (.inl (steps.holds plain tree unique)) steps'.prepare
      rw [works] at empty'
      rw [hasFile, Option.isSome_eq_false_iff, Option.isNone_iff_eq_none] at empty empty'
      rw [empty, empty']

/-- What is gathered alike is handed over under the same names. -/
theorem hands_eq (steps : config.Steps compiler volume report between)
    (steps' : config.Steps compiler between again final) (works : between.workDir = volume.workDir)
    (gathered : Alike (fun location =>
      (config.directories.sourceDir.location volume.workDir).Directly location ∨
        (config.directories.buildDir.location volume.workDir).Directly location)
      steps.gathered steps'.gathered) (name : String) :
    steps'.hands name = steps.hands name := by
  rw [hands, hands, works, hasFile, hasFile, gathered.files _ (.inr ⟨name, rfl⟩)]

theorem managed_eq (steps : config.Steps compiler volume report between)
    (steps' : config.Steps compiler between again final) : steps'.managed = steps.managed := by
  have same := steps'.isManaged
  rw [steps.isManaged] at same
  exact (Except.ok.inj same).symm

end Steps

/-- A second run on what a run has left makes the same records, takes nothing away, and leaves the
project with the same names. -/
theorem run_again (tree : volume.IsTree) (unique : volume.Unique)
    (accepted : config.check compiler (workSteps volume) = .ok ())
    (apart : config.directories.sourceDir.location volume.workDir ≠
      config.directories.projectDir.location volume.workDir)
    (table : '/' ∉ config.package.tableFile.toList)
    (published : '/' ∉ config.patterns.published.toList)
    (unnumbered : config.directories.buildDir.Unnumbered) (reached : config.Reached volume)
    {report again : Report} {between : Volume}
    (first : config.run compiler volume = .ok report between)
    (second : config.run compiler between = .ok again final) :
    again.records = report.records ∧ again.table = report.table ∧ again.removed = [] ∧
      final.fileNames (config.directories.projectDir.location volume.workDir) =
        between.fileNames (config.directories.projectDir.location volume.workDir) := by
  have plain : config.Plain volume.workDir :=
    ⟨apart_of_check accepted, table, published, unnumbered⟩
  obtain ⟨steps⟩ := exists_steps first
  obtain ⟨steps'⟩ := exists_steps second
  have frames := steps.frames plain tree
  have works := frames.works
  have plain' : config.Plain between.workDir := works ▸ plain
  have betweenTree := frames.promote.tree
  have betweenUnique := frames.unique unique
  have frames' := steps'.frames plain' betweenTree
  have lies : config.directories.sourceDir.location volume.workDir ≠
      config.directories.buildDir.location volume.workDir :=
    fun same => plain.apart.outside config.directories.sourceDir (by simp) (by simp [same])
  obtain ⟨records, -, gathered, -⟩ := agrees_gather plain.apart.build published lies
    frames.prepare.workDir (steps.alike_cleared steps' plain tree unique reached apart)
    steps.gather steps'.gather
  have hands := steps.hands_eq steps' works gathered
  have managed := steps.managed_eq steps'
  obtain ⟨-, left⟩ := steps.handed plain tree unique
  obtain ⟨removed, left'⟩ := steps'.handed plain' betweenTree betweenUnique
  rw [works] at removed left'
  refine ⟨records, ?_, ?_, ?_⟩
  · rw [(steps.hasFile_assembled plain tree).1, (steps'.hasFile_assembled plain' betweenTree).1]
  · rw [removed, List.map_eq_nil_iff, List.filter_eq_nil_iff]
    intro name member
    have stands := (mem_fileNames_iff betweenUnique).1 member
    rw [left] at stands
    rw [managed, hands]
    revert stands
    cases steps.hands name <;> cases steps.managed.occursIn name <;> simp
  · refine fileNames_congr (frames'.unique betweenUnique) betweenUnique fun name => ?_
    rw [left', left, hands, managed]
    cases steps.hands name <;> cases steps.managed.occursIn name <;> simp

/-- A configuration for a package of one file, which is the lookup table. -/
def soleTable (buildDir : Path) : Config where
  directories := { sourceDir := ⟨"upstream"⟩, buildDir, projectDir := ⟨"project"⟩ }
  package :=
    { name := "p", exports := ["q"], dependencies := ["../upstream/table.txt"]
      tableFile := "table.txt" }
  patterns :=
    { structures := "F", functions := "N", staging := "t.go", published := "table.txt"
      managed := "old" }
  origin := { name := "elastic", path := "github.com/olivere/elastic" }
  maxRounds := 1

/-- The reports of two runs, one after the other. -/
def reports? (compiler : PatternCompiler) (config : Config) (volume : Volume) :
    Option (Report × Report) :=
  match config.run compiler volume with
  | .error _ _ => none
  | .ok report between =>
      match config.run compiler between with
      | .error _ _ => none
      | .ok again _ => some (report, again)

theorem exists_runs {report again : Report}
    (reports : config.reports? compiler volume = some (report, again)) :
    ∃ between final, config.run compiler volume = .ok report between ∧
      config.run compiler between = .ok again final := by
  delta reports? at reports
  split at reports
  · cases reports
  · rename_i ran
    split at reports
    · cases reports
    · rename_i ranAgain
      cases reports
      exact ⟨_, _, ran, ranAgain⟩

/-- A volume with a file in the project that a run takes away. -/
def staleProject : Volume where
  workDir := []
  entries :=
    [(["upstream"], .directory), (["upstream", "table.txt"], .file (.text "")),
      (["project"], .directory), (["project", "x.old"], .file (.text ""))]

theorem run_again_staleProject :
    ∃ report between again final,
      (soleTable ⟨"build"⟩).run .standard staleProject = .ok report between ∧
      (soleTable ⟨"build"⟩).run .standard between = .ok again final ∧
      report.removed = [⟨"project/x.old"⟩] ∧ again.removed = [] ∧
      again.records = report.records ∧
      final.fileNames ["project"] = between.fileNames ["project"] := by
  have reports : (soleTable ⟨"build"⟩).reports? .standard staleProject =
      some (⟨[], 0, ⟨"build/table.txt"⟩, [⟨"project/x.old"⟩]⟩,
        ⟨[], 0, ⟨"build/table.txt"⟩, []⟩) := by
    decide +kernel
  obtain ⟨between, final, first, second⟩ := exists_runs reports
  have tree : staleProject.IsTree := by decide +kernel
  have unique : staleProject.Unique := by decide +kernel
  have accepted : (soleTable ⟨"build"⟩).check .standard (workSteps staleProject) = .ok () :=
    check_of_isOk (by decide +kernel)
  have unnumbered : (soleTable ⟨"build"⟩).directories.buildDir.Unnumbered :=
    Path.unnumbered_of_notMem (by decide)
  have missing : (soleTable ⟨"build"⟩).Reached staleProject := .inr (by decide +kernel)
  obtain ⟨records, -, removed, names⟩ := run_again tree unique accepted (by decide) (by decide)
    (by decide) unnumbered missing first second
  exact ⟨_, between, _, final, first, second, rfl, removed, records, names⟩

/-- A volume with a file in the build directory that an earlier run has left. -/
def leftOver : Volume where
  workDir := []
  entries :=
    [(["upstream"], .directory), (["upstream", "table.txt"], .file (.text "")),
      (["project"], .directory), (["build"], .directory),
      (["build", "t.go"], .file (.text
        "package p\ntype F struct\x7b\x7d\nfunc N() *F \x7b return &F\x7b\x7d \x7d\n"))]

/-- A build directory that is there, but not found, is not cleared: the first run makes a record
of what was left in it, the second one does not. -/
theorem run_again_leftOver :
    leftOver.IsTree ∧ leftOver.Unique ∧
    (soleTable ⟨"gone/../build"⟩).check .standard (workSteps leftOver) = .ok () ∧
    ∃ report between again final,
      (soleTable ⟨"gone/../build"⟩).run .standard leftOver = .ok report between ∧
      (soleTable ⟨"gone/../build"⟩).run .standard between = .ok again final ∧
      report.records = [⟨.notInjectable, "N"⟩] ∧ again.records = [] := by
  have reports : (soleTable ⟨"gone/../build"⟩).reports? .standard leftOver =
      some (⟨[⟨.notInjectable, "N"⟩], 0, ⟨"gone/../build/table.txt"⟩, []⟩,
        ⟨[], 0, ⟨"gone/../build/table.txt"⟩, []⟩) := by
    decide +kernel
  obtain ⟨between, final, first, second⟩ := exists_runs reports
  have unique : leftOver.Unique := by decide +kernel
  have tree : leftOver.IsTree := by decide +kernel
  have accepted : (soleTable ⟨"gone/../build"⟩).check .standard (workSteps leftOver) = .ok () :=
    check_of_isOk (by decide +kernel)
  exact ⟨tree, unique, accepted, _, between, _, final, first, second, rfl, rfl⟩

end Config

end GoMend
