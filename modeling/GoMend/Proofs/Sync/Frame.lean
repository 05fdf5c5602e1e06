import GoMend.Proofs.Repair.Reporting
import GoMend.Proofs.Volume.Frame
import GoMend.Proofs.Volume.Outcome
import GoMend.Sync.Update

/-!
# What a run leaves alone

Until it hands the package over, a run changes files inside the build directory only, also where it
repairs files under paths that it read back from reports.  Handing over changes files inside the
project.
-/

namespace GoMend

open Volume

variable {workDir : Location} {area : Location → Prop}

/-! ## Sources -/

namespace Source

theorem stays_load (path : Path) :
    Stays workDir area (fun source => source.path = path) (load path) :=
  (Disk.stays_readText path).bind fun _ _ => Disk.stays_ofExcept fun _ => path_of_parse

theorem stays_list (dir : Path) :
    Stays workDir area (fun paths => ∀ path ∈ paths, ∃ name, ProperName name ∧
      path = dir.join name) (list dir) :=
  (Disk.stays_files dir).bind fun _ listed => .pure fun path member =>
    listed path (List.mem_of_mem_filter member)

theorem stays_saveTo {dir : Path} (nonempty : dir.text ≠ "") {name : String}
    (slash : '/' ∉ name.toList) (source : Source) :
    Stays workDir (· = dir.location workDir ++ [name]) (fun _ => True)
      (source.saveTo (dir.join name)) :=
  Disk.stays_writeText nonempty slash _

/-- The first undefined name is reported for one of the sources. -/
theorem exists_path_eq {sources : List Source} {report : Diagnostic}
    (reported : firstUndefined? sources = some report) :
    ∃ source ∈ sources, report.path = source.path := by
  obtain ⟨source, member, told⟩ := List.exists_of_findSome?_eq_some reported
  obtain ⟨unresolved, -, rfl⟩ := Option.map_eq_some_iff.1 told
  exact ⟨source, List.mem_mergeSort.1 member, rfl⟩

end Source

/-! ## Copies -/

namespace Disk

variable {dir : Path}

theorem stays_filesMatching (dir : Path) (pattern : Matcher) :
    Stays workDir area (fun paths => ∀ path ∈ paths, ∃ name, ProperName name ∧
      path = dir.join name) (filesMatching dir pattern) :=
  (stays_files dir).bind fun _ listed => .pure fun path member =>
    listed path (List.mem_of_mem_filter member)

/-- Files are copied under their own names, so they stay in the directory. -/
theorem stays_copyInto (nonempty : dir.text ≠ "") (sources : List Path) :
    Stays workDir (dir.location workDir).Directly (fun _ => True) (copyInto dir sources) := by
  refine stays_mapM_any fun source _ => ?_
  refine Stays.seq ?_ fun _ => .pure trivial
  exact (stays_copy source nonempty source.slash_fileName).mono (fun same => ⟨_, same⟩) id

theorem stays_extract {compiler : PatternCompiler} (nonempty : dir.text ≠ "")
    (pattern : String) (source : Path) :
    Stays workDir (dir.location workDir).Directly (fun _ => True)
      (extract compiler pattern source dir) :=
  (stays_ofExcept_any _).seq fun pattern => (stays_makeDirectories dir).seq fun _ =>
    (stays_filesMatching source pattern).bind fun sources _ => stays_copyInto nonempty sources

theorem stays_copyDependencies (nonempty : dir.text ≠ "") (names : List String) (source : Path) :
    Stays workDir (dir.location workDir).Directly (fun _ => True)
      (copyDependencies names source dir) :=
  (stays_makeDirectories dir).seq fun _ => stays_copyInto nonempty _

/-- Handing over changes files directly in the project. -/
theorem stays_promote {project : Path} (nonempty : project.text ≠ "") (build : Path)
    (managed : Matcher) :
    Stays workDir (project.location workDir).Directly (fun _ => True)
      (promote build project managed) := by
  refine (stays_filesMatching project managed).bind fun published listed =>
    (stays_files build).bind fun built _ => (stays_makeDirectories project).seq fun _ =>
      (stays_copyInto nonempty built).seq fun _ =>
        (stays_forM fun path member => ?_).seq fun _ => .pure trivial
  obtain ⟨name, proper, rfl⟩ := listed path (List.mem_of_mem_filter member)
  exact (stays_remove nonempty proper).mono (fun same => ⟨_, same⟩) id

end Disk

/-! ## Publishing -/

namespace Pipeline

variable {pipeline : Pipeline} {dir : Path} {name : String}

/-- The name under which a file of the given name is published. -/
def publishedName (pipeline : Pipeline) (name : String) : String :=
  (pipeline.publishedName? name).getD name

theorem slash_publishedName (published : '/' ∉ pipeline.published.toList)
    (slash : '/' ∉ name.toList) : '/' ∉ (pipeline.publishedName name).toList := by
  rw [publishedName, publishedName?]
  split
  · exact slash
  · cases behind : pipeline.staging.toList.isPrefixOf? name.toList with
    | none => exact slash
    | some rest =>
        rw [List.isPrefixOf?_eq_some_iff_append_eq] at behind
        rw [Option.map_some, Option.getD_some, String.toList_append, String.toList_ofList,
          List.mem_append, not_or]
        exact ⟨published, fun member => slash (behind ▸ List.mem_append_right _ member)⟩

/-- A file of a directory is published in that directory. -/
theorem publishedPath_join (nonempty : dir.text ≠ "") (proper : ProperName name) :
    ∃ parent, Path.Beside dir parent ∧
      pipeline.publishedPath (dir.join name) = parent.join (pipeline.publishedName name) := by
  rw [publishedPath, publishedName, Path.fileName?_join nonempty proper, Option.bind_some]
  cases pipeline.publishedName? name with
  | none => exact ⟨dir, ⟨nonempty, fun _ => rfl⟩, rfl⟩
  | some new => exact Path.withFileName_join nonempty proper new

/-- A file is published under its new name and goes away under the old one. -/
theorem stays_publish (nonempty : dir.text ≠ "") (published : '/' ∉ pipeline.published.toList)
    (proper : ProperName name) :
    Stays workDir (fun location => location = dir.location workDir ++ [name] ∨
        location = dir.location workDir ++ [pipeline.publishedName name])
      (fun _ => True) (pipeline.publish (dir.join name)) := by
  obtain ⟨parent, beside, target⟩ := publishedPath_join nonempty proper
  have slash := slash_publishedName published proper.slash
  refine (Source.stays_load _).bind fun source _ => ?_
  cases pipeline.transform source with
  | mk result moved =>
      refine (Disk.stays_ofExcept_any result).seq fun record => ?_
      dsimp only
      rw [target, ← beside.location workDir]
      refine ((Source.stays_saveTo beside.nonempty slash moved).mono .inr id).seq fun _ => ?_
      split
      · exact .pure trivial
      · rw [beside.location workDir]
        exact ((Disk.stays_remove nonempty proper).mono .inl id).seq fun _ => .pure trivial

theorem stays_publishAll (nonempty : dir.text ≠ "")
    (published : '/' ∉ pipeline.published.toList) :
    Stays workDir (dir.location workDir).Directly (fun _ => True) (pipeline.publishAll dir) := by
  refine (Source.stays_list dir).bind fun paths listed =>
    (Disk.stays_mapM_any fun path member => ?_).seq fun _ => .pure trivial
  obtain ⟨name, proper, rfl⟩ := listed path member
  refine (stays_publish nonempty published proper).mono ?_ id
  rintro location (rfl | rfl)
  · exact ⟨_, rfl⟩
  · exact ⟨_, rfl⟩

end Pipeline

/-! ## Healing -/

/-- What is reported about the files of a directory names a file of it. -/
theorem Analyzer.stays_verify {dir : Path} (nonempty : dir.text ≠ "")
    (unnumbered : dir.Unnumbered) {round : Nat} {files : List Path}
    (listed : ∀ path ∈ files, ∃ name, ProperName name ∧ path = dir.join name) :
    Stays workDir area (fun verified => ∀ report, verified = some report →
      ∃ part : String, '/' ∉ part.toList ∧ report.path = dir.join part)
      (undefinedNames.verify round files) := by
  have loaded : Stays workDir area (fun sources : List Source => ∀ source ∈ sources,
      ∃ name, ProperName name ∧ source.path = dir.join name) (files.mapM Source.load) := by
    refine Disk.stays_mapM fun path member => (Source.stays_load path).mono id fun isPath => ?_
    obtain ⟨name, proper, joined⟩ := listed path member
    exact ⟨name, proper, isPath.trans joined⟩
  have reports : Stays workDir area (fun written => ∀ text, written = some text →
      ∃ (report : Diagnostic) (name : String), ProperName name ∧ report.path = dir.join name ∧
        text = report.render) (undefinedNames.report round files) := by
    refine loaded.bind fun sources located => .pure fun text written => ?_
    obtain ⟨report, reported, rfl⟩ := Option.map_eq_some_iff.1 written
    obtain ⟨source, member, same⟩ := Source.exists_path_eq reported
    obtain ⟨name, proper, joined⟩ := located source member
    exact ⟨report, name, proper, same.trans joined, rfl⟩
  refine reports.bind fun written told => ?_
  cases written with
  | none => exact .pure nofun
  | some text =>
      obtain ⟨report, name, proper, about, rfl⟩ := told text rfl
      refine (Disk.stays_ofExcept fun read parsed =>
        Diagnostic.parse_render_join nonempty unnumbered proper.slash about parsed).bind
          fun read named => .pure fun report isRead => ?_
      cases isRead
      exact named

namespace Origin

variable {origin : Origin} {dir : Path}

/-- Mending a source does not move it. -/
theorem mend?_path {position : Position} {source mended : Source}
    (isMended : origin.mend? position source = some mended) : mended.path = source.path := by
  have imported : (source.addImport none origin.path).2.path = source.path := by
    rw [Source.addImport]
    split <;> rfl
  obtain ⟨⟨_, qualified⟩, isQualified, rfl⟩ := Option.map_eq_some_iff.1 isMended
  obtain ⟨_, -, found⟩ := Option.bind_eq_some_iff.1 isQualified
  obtain ⟨_, -, told⟩ := Option.bind_eq_some_iff.1 found
  cases told
  exact imported

theorem stays_repair (nonempty : dir.text ≠ "") {report : Diagnostic} {part : String}
    (slash : '/' ∉ part.toList) (about : report.path = dir.join part) :
    Stays workDir (dir.location workDir).Inside (fun _ => True) (origin.repair report) := by
  refine (Source.stays_load _).bind fun source loaded => ?_
  cases mended : origin.mend? report.position source with
  | none => exact .pure trivial
  | some changed =>
      refine Stays.seq ?_ fun _ => .pure trivial
      rw [Source.save, mend?_path mended, loaded, about]
      refine (Source.stays_saveTo nonempty slash changed).mono ?_ id
      rintro _ rfl
      exact Location.inside_concat _ _

theorem stays_healOnce (nonempty : dir.text ≠ "") (unnumbered : dir.Unnumbered) {round : Nat}
    {files : List Path} (listed : ∀ path ∈ files, ∃ name, ProperName name ∧
      path = dir.join name) :
    Stays workDir (dir.location workDir).Inside (fun _ => True)
      (origin.healOnce .undefinedNames round files) := by
  refine (Analyzer.stays_verify nonempty unnumbered listed).bind fun verified told => ?_
  cases verified with
  | none => exact .pure trivial
  | some report =>
      obtain ⟨part, slash, about⟩ := told report rfl
      refine (stays_repair nonempty slash about).bind fun repaired _ => ?_
      cases repaired
      · exact .pure trivial
      · exact .pure trivial

theorem stays_healRounds (nonempty : dir.text ≠ "") (unnumbered : dir.Unnumbered)
    (left rounds repairs : Nat) (last : Option Diagnostic) :
    Stays workDir (dir.location workDir).Inside (fun _ => True)
      (origin.healRounds .undefinedNames dir left rounds repairs last) := by
  induction left generalizing rounds repairs last with
  | zero => exact .throw _
  | succ left ih =>
      refine (Source.stays_list dir).bind fun files listed =>
        (stays_healOnce nonempty unnumbered listed).bind fun healed _ => ?_
      cases healed with
      | clean => exact .pure trivial
      | repaired report => exact ih _ _ _
      | unrepaired report => exact ih _ _ _

end Origin

/-! ## Runs -/

/-- The volume that an action leaves behind, however it ends. -/
def Disk.after {α : Type} (action : Disk α) (volume : Volume) : Volume :=
  match action volume with
  | .ok _ final => final
  | .error _ final => final

/-- An action that ends with the value ends so in the volume that it leaves behind. -/
theorem Disk.eq_ok_of_succeeds {α : Type} [DecidableEq α] {action : Disk α} {volume : Volume}
    {value : α} (checked : Disk.succeeds action volume (fun result _ => result = value) = true) :
    action volume = .ok value (action.after volume) := by
  obtain ⟨result, final, ends, same⟩ := Disk.exists_ok checked
  rw [Disk.after, ends, of_decide_eq_true same]

namespace Config

variable {compiler : PatternCompiler} {config : Config} {volume : Volume}

/-- What a run does before it hands the package over. -/
def ready (compiler : PatternCompiler) (config : Config) :
    Disk ((List Record × Nat × Path) × Matcher) := do
  let assembled ← config.assemble compiler
  let managed ← Disk.ofExcept (compiler.compile config.patterns.managed)
  return (assembled, managed)

/-- The directories of a configuration lie apart: neither the project nor the source is, or lies
in, the build directory. -/
structure Apart (config : Config) (workDir : Location) : Prop where
  build : config.directories.buildDir.text ≠ ""
  project : config.directories.projectDir.text ≠ ""
  outside : ∀ dir ∈ [config.directories.projectDir, config.directories.sourceDir],
    ¬config.directories.buildDir.location workDir <+: dir.location workDir

theorem resolved_eq_ok {dir : Path} {steps : List PathComponent}
    (isResolved : resolved (Path.stepsTo workDir) dir = .ok steps) :
    dir.text ≠ "" ∧ steps = Path.stepsTo (dir.location workDir) := by
  rw [resolved] at isResolved
  by_cases nonempty : dir.text = ""
  · rw [Path.normalized?, if_pos nonempty] at isResolved
    cases isResolved
  · rw [Path.normalized?_eq workDir nonempty] at isResolved
    cases isResolved
    exact ⟨nonempty, rfl⟩

theorem isPrefixOf_stepsTo (dir location : Location) :
    (Path.stepsTo dir).isPrefixOf (Path.stepsTo location) = true ↔ dir <+: location := by
  rw [List.isPrefixOf_iff_prefix, Path.stepsTo, Path.stepsTo, List.prefix_cons_inj]
  exact List.prefix_map_iff_of_injective fun _ _ => PathComponent.named.inj

theorem checkOutside_eq_ok {build : Location} {buildDir dir : Path} {key : String}
    (accepted : checkOutside (Path.stepsTo workDir) buildDir (Path.stepsTo build) key dir =
      .ok ()) : dir.text ≠ "" ∧ ¬build <+: dir.location workDir := by
  obtain ⟨steps, isResolved, outside⟩ := of_bind_eq_ok accepted
  obtain ⟨nonempty, rfl⟩ := resolved_eq_ok isResolved
  split at outside
  · cases outside
  · rename_i apart
    exact ⟨nonempty, fun inside => apart ((isPrefixOf_stepsTo _ _).2 inside)⟩

theorem check_of_isOk {steps : List PathComponent}
    (isOk : (config.check compiler steps).isOk = true) :
    config.check compiler steps = .ok () := by
  cases checked : config.check compiler steps with
  | ok _ => rfl
  | error fault =>
      rw [checked] at isOk
      cases isOk

/-- What a configuration that is not refused has passed. -/
theorem check_eq_ok {steps : List PathComponent} (accepted : config.check compiler steps = .ok ()) :
    checkDirectories steps config.directories = .ok () ∧
      ∀ text ∈ config.patternTexts, ∃ pattern, compiler.compile text = .ok pattern := by
  have read : ∀ texts : List String,
      (texts.forM fun text => do let _ ← compiler.compile text) = (.ok () : Except Fault Unit) →
        ∀ text ∈ texts, ∃ pattern, compiler.compile text = .ok pattern := by
    intro texts
    induction texts with
    | nil => exact fun _ _ => nofun
    | cons first rest ih =>
        intro parsed text member
        obtain ⟨_, one, others⟩ := of_bind_eq_ok parsed
        cases List.mem_cons.1 member with
        | inl same =>
            obtain ⟨pattern, isPattern, -⟩ := of_bind_eq_ok one
            exact ⟨pattern, same ▸ isPattern⟩
        | inr later => exact ih others text later
  rw [check] at accepted
  split at accepted
  · cases accepted
  · dsimp only at accepted
    split at accepted
    · cases accepted
    · obtain ⟨_, checked, accepted⟩ := of_bind_eq_ok accepted
      split at accepted
      · cases accepted
      · exact ⟨checked, read _ accepted⟩

theorem apart_of_check (accepted : config.check compiler (workSteps volume) = .ok ()) :
    config.Apart volume.workDir := by
  have checked : checkDirectories (Path.stepsTo volume.workDir) config.directories = .ok () :=
    (check_eq_ok accepted).1
  obtain ⟨build, isResolved, checked⟩ := of_bind_eq_ok checked
  obtain ⟨nonempty, rfl⟩ := resolved_eq_ok isResolved
  obtain ⟨_, first, second⟩ := of_bind_eq_ok checked
  have project := checkOutside_eq_ok first
  have source := checkOutside_eq_ok second
  refine ⟨nonempty, project.1, fun dir member => ?_⟩
  rcases List.mem_cons.1 member with rfl | member
  · exact project.2
  · rw [List.mem_singleton.1 member]
    exact source.2

/-- What is extracted into the build directory and published there. -/
def gather (compiler : PatternCompiler) (config : Config) : Disk (List Record) := do
  config.package.exports.forM fun pattern => do
    let _ ← Disk.extract compiler pattern config.directories.sourceDir config.directories.buildDir
  let pipeline ← Disk.ofExcept (config.pipeline compiler)
  pipeline.publishAll config.directories.buildDir

theorem assemble_eq (config : Config) : config.assemble compiler = do
    config.prepare
    let records ← config.gather compiler
    let _ ← Disk.copyDependencies config.package.dependencies config.directories.projectDir
      config.directories.buildDir
    let repairs ← config.origin.heal .undefinedNames config.maxRounds config.directories.buildDir
    let table ← config.table.emit records config.directories.buildDir
    return (records, repairs, table) := by
  simp only [assemble, gather, bind_assoc]

theorem published_of_pipeline {pipeline : Pipeline}
    (made : config.pipeline compiler = .ok pipeline) :
    pipeline.published = config.patterns.published := by
  obtain ⟨_, -, made⟩ := of_bind_eq_ok made
  obtain ⟨_, -, made⟩ := of_bind_eq_ok made
  cases made
  rfl

theorem stays_prepare (config : Config) :
    Stays workDir (config.directories.buildDir.location workDir).Inside (fun _ => True)
      config.prepare :=
  (Disk.stays_removeTree _).seq fun _ => Disk.stays_makeDirectories _

theorem stays_gather (nonempty : config.directories.buildDir.text ≠ "")
    (published : '/' ∉ config.patterns.published.toList) :
    Stays workDir (config.directories.buildDir.location workDir).Directly (fun _ => True)
      (config.gather compiler) := by
  refine (Disk.stays_forM fun pattern _ =>
    (Disk.stays_extract nonempty pattern _).seq fun _ => .pure trivial).seq fun _ => ?_
  refine (Disk.stays_ofExcept fun _ => published_of_pipeline).bind fun pipeline same => ?_
  exact Pipeline.stays_publishAll nonempty (same ▸ published)

theorem stays_emit (nonempty : config.directories.buildDir.text ≠ "")
    (table : '/' ∉ config.package.tableFile.toList) (records : List Record) :
    Stays workDir (config.directories.buildDir.location workDir).Directly (fun _ => True)
      (config.table.emit records config.directories.buildDir) :=
  ((Disk.stays_writeText nonempty table _).mono (fun same => ⟨_, same⟩) id).seq
    fun _ => .pure trivial

/-- A configuration for a package that needs a file which the project lacks. -/
def lacking : Config where
  directories := { sourceDir := ⟨"upstream"⟩, buildDir := ⟨"build"⟩, projectDir := ⟨"project"⟩ }
  package :=
    { name := "p", exports := ["x"], dependencies := ["missing.go"], tableFile := "table.go" }
  patterns :=
    { structures := "x", functions := "x", staging := "x", published := "y", managed := "x" }
  origin := { name := "elastic", path := "github.com/olivere/elastic" }
  maxRounds := 1

/-- A volume with a file in each directory. -/
def settled : Volume where
  workDir := []
  entries :=
    [(["upstream"], .directory), (["upstream", "x.go"], .file (.text "package q\n")),
      (["build"], .directory), (["build", "old.go"], .file (.text "package p\n")),
      (["project"], .directory), (["project", "y.go"], .file (.text "package p\n"))]

end Config

end GoMend
