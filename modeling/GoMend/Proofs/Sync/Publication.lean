import GoMend.Proofs.Formed.Placed
import GoMend.Proofs.Repair.Verified
import GoMend.Proofs.Sync.Publishing
import GoMend.Proofs.Sync.Stability
import GoMend.Proofs.Wrap.Hygiene
import GoMend.Proofs.Wrap.Listing

/-!
# What a run publishes

Healing ends in a package that verifies.  The lookup table is written after that and never checked.
It adds one file to the package, which is read back as the table, so what is published verifies
exactly if the package provides every name that was recorded.
-/

namespace GoMend

open Disk Volume

variable {volume final : Volume} {dir : Path} {name text : String}

/-! ## One more file in a package -/

/-- The values that are known of some parts are those of all parts that are told as known. -/
theorem exists_forall₂_of_filter {α β : Type} {before after : α → β → Prop} {keeps : α → Bool}
    {old : β → Bool} {parts : List α} {known : List β}
    (each : List.Forall₂ before (parts.filter keeps) known)
    (kept : ∀ part ∈ parts, keeps part = true →
      ∀ value, before part value → after part value ∧ old value = true)
    (others : ∀ part ∈ parts, keeps part = false → ∃ value, after part value ∧ old value = false) :
    ∃ values, List.Forall₂ after parts values ∧ values.filter old = known := by
  induction parts generalizing known with
  | nil =>
      cases each
      exact ⟨[], .nil, rfl⟩
  | cons part rest ih =>
      obtain ⟨keptFirst, keptRest⟩ := List.forall_mem_cons.1 kept
      obtain ⟨othersFirst, othersRest⟩ := List.forall_mem_cons.1 others
      cases isKept : keeps part with
      | true =>
          rw [List.filter_cons_of_pos isKept] at each
          obtain ⟨value, more, first, later, rfl⟩ := List.forall₂_cons_left_iff.1 each
          obtain ⟨values, all, same⟩ := ih later keptRest othersRest
          obtain ⟨holds, isOld⟩ := keptFirst isKept value first
          exact ⟨value :: values, .cons holds all, by rw [List.filter_cons_of_pos isOld, same]⟩
      | false =>
          rw [List.filter_cons_of_neg (by simp [isKept])] at each
          obtain ⟨values, all, same⟩ := ih each keptRest othersRest
          obtain ⟨value, holds, isNew⟩ := othersFirst isKept
          exact ⟨value :: values, .cons holds all,
            by rw [List.filter_cons_of_neg (by simp [isNew]), same]⟩

namespace Volume

/-- The second volume has one more file in a directory of the first: its text is read under the
name, all other files of the directory stand as they did, and so does every directory. -/
structure Adds (dir : Path) (name text : String) (volume final : Volume) : Prop where
  works : final.workDir = volume.workDir
  directories : ∀ location, volume.isDirectory location = true →
    final.isDirectory location = true
  files : ∀ other, other ≠ name → final.fileAt? (dir.location volume.workDir ++ [other]) =
    volume.fileAt? (dir.location volume.workDir ++ [other])
  text : final.textAt (dir.join name) = .ok text
  fresh : volume.hasFile (dir.location volume.workDir) name = false

namespace Adds

/-- All source files but the one that was added are those that were there. -/
theorem names (adds : Adds dir name text volume final) (unique : volume.Unique)
    (unique' : final.Unique) :
    Source.names volume dir = (Source.names final dir).filter (· != name) := by
  have same : volume.fileNames (dir.location volume.workDir) =
      (final.fileNames (dir.location volume.workDir)).filter (· != name) := by
    refine fileNames_filter unique unique' fun other => ?_
    by_cases isNew : other = name
    · rw [isNew, adds.fresh, bne_self_eq_false, Bool.and_false]
    · rw [bne_iff_ne.2 isNew, Bool.and_true, hasFile, hasFile, adds.files other isNew]
  rw [Source.names, Source.names, adds.works, same, List.filter_filter, List.filter_filter]
  exact List.filter_congr fun _ _ => Bool.and_comm _ _

/-- A file that was there is read as it was. -/
theorem reads (adds : Adds dir name text volume final) (nonempty : dir.text ≠ "") {other : String}
    (proper : ProperName other) (apart : other ≠ name) {source : Source}
    (read : Source.Reads volume (dir.join other) source) :
    Source.Reads final (dir.join other) source := by
  obtain ⟨known, isText, parsed⟩ := read
  refine ⟨known, textAt_mono adds.directories adds.works ?_ isText, parsed⟩
  rw [Path.location_join _ nonempty proper.slash, proper.follow]
  exact adds.files other apart

section

variable (adds : Adds dir name text volume final) (tree : final.IsTree) (unique : final.Unique)
  (nonempty : dir.text ≠ "") (proper : ProperName name) {new : Source}
  (parsed : Source.parse (dir.join name) text = .ok new)

include adds tree unique nonempty proper parsed

/-- With one more file the directory is read as the same sources and the one of the file. -/
theorem exists_sources (uniqueBefore : volume.Unique) {known : List Source}
    (each : List.Forall₂ (Source.Reads volume) ((Source.names volume dir).map dir.join) known) :
    ∃ sources,
      List.Forall₂ (Source.Reads final) ((Source.names final dir).map dir.join) sources ∧
        sources.filter (·.path != dir.join name) = known := by
  simp only [List.forall₂_map_left_iff, adds.names uniqueBefore unique] at each ⊢
  refine exists_forall₂_of_filter each ?_ ?_
  · intro other member apart source read
    have properOther := Source.properName_of_mem tree member
    have isOther : other ≠ name := by simpa using apart
    refine ⟨adds.reads nonempty properOther isOther read, ?_⟩
    obtain ⟨_, _, parsedOther⟩ := read
    rw [Source.path_of_parse parsedOther, bne_iff_ne]
    intro same
    have sameName := congrArg Path.fileName? same
    rw [Path.fileName?_join nonempty properOther, Path.fileName?_join nonempty proper] at sameName
    exact isOther (Option.some.inj sameName)
  · intro other member same
    obtain rfl : other = name := by simpa using same
    refine ⟨new, ⟨text, adds.text, parsed⟩, ?_⟩
    rw [Source.path_of_parse parsed, bne_self_eq_false]

omit tree in
/-- What the file is read as is among the sources exactly if it is a source file, and no other of
them has its path. -/
theorem mem_sources {sources : List Source}
    (reads : List.Forall₂ (Source.Reads final) ((Source.names final dir).map dir.join) sources) :
    (new ∈ sources ↔ (dir.join name).extension? = some Source.extension) ∧
      ∀ source ∈ sources, (source.path != dir.join name) = false → source = new := by
  have newReads : Source.Reads final (dir.join name) new := ⟨text, adds.text, parsed⟩
  refine ⟨⟨fun member => ?_, fun isSource => ?_⟩, fun source member same => ?_⟩
  · obtain ⟨path, inPaths, _, _, parsedNew⟩ := Source.exists_path_of_mem reads member
    obtain ⟨other, inNames, rfl⟩ := List.mem_map.1 inPaths
    rw [← Source.path_of_parse parsed, Source.path_of_parse parsedNew]
    simpa using (List.mem_filter.1 inNames).2
  · have stands := textAt_eq_ok adds.text
    rw [Path.location_join _ nonempty proper.slash, proper.follow] at stands
    have inNames : name ∈ Source.names final dir := by
      refine List.mem_filter.2 ⟨(mem_fileNames_iff unique).2 ?_, by simp [isSource]⟩
      rw [hasFile, stands]
      rfl
    obtain ⟨source, member, read⟩ :=
      Source.exists_source_of_mem reads (List.mem_map_of_mem inNames)
    exact read.unique newReads ▸ member
  · obtain ⟨path, -, read⟩ := Source.exists_path_of_mem reads member
    have isPath : path = dir.join name := by
      obtain ⟨_, _, parsedSource⟩ := read
      rw [← Source.path_of_parse parsedSource]
      simpa using same
    exact (isPath ▸ read).unique newReads

end

end Adds

end Volume

/-- A package that verifies still does with one more file that declares no types exactly if, in case
that it is a source file, nothing in it is undefined. -/
theorem Analyzer.verifyDirectory_adds (adds : Adds dir name text volume final)
    (treeBefore : volume.IsTree) (tree : final.IsTree) (uniqueBefore : volume.Unique)
    (unique : final.Unique) (proper : ProperName name) (holds : final.holds dir = true)
    (verified : undefinedNames.verifyDirectory dir volume = .ok none volume) {new : Source}
    (parsed : Source.parse (dir.join name) text = .ok new)
    (typeless : new.file.decls.flatMap PackageScope.declTypes = []) :
    ∃ sources, (Source.list dir >>= fun files => files.mapM Source.load) final =
        .ok sources final ∧
      (undefinedNames.verifyDirectory dir final = .ok none final ↔
        ((dir.join name).extension? = some Source.extension →
          new.undefined? (Source.packageOf sources) = none)) := by
  obtain ⟨paths, _, listed, verified⟩ := bind_eq_ok.1 verified
  obtain ⟨rfl, nonempty, rfl⟩ := Source.list_eq_ok treeBefore listed
  obtain ⟨⟨known, each, clean⟩, -⟩ := verify_undefinedNames_eq_none.1 verified
  obtain ⟨sources, reads, rfl⟩ :=
    adds.exists_sources tree unique nonempty proper parsed uniqueBefore each
  obtain ⟨added, isNew⟩ := adds.mem_sources unique nonempty proper parsed reads
  have read : (Source.list dir >>= fun files => files.mapM Source.load) final =
      .ok sources final :=
    bind_eq_ok.2 ⟨_, final, Source.list_of_holds tree holds,
      Source.mapM_load_eq_ok.2 ⟨reads, rfl⟩⟩
  refine ⟨sources, read, ?_⟩
  rw [verifyDirectory_undefinedNames_eq_none read, Source.firstUndefined?_filter
    (fun source member same => isNew source member same ▸ typeless) clean, ← added]
  constructor
  · intro quiet member
    refine quiet new member ?_
    rw [Source.path_of_parse parsed, bne_self_eq_false]
  · intro quiet source member same
    obtain rfl := isNew source member same
    exact quiet member

/-! ## Healing -/

namespace Origin

variable {origin : Origin}

/-- A round that ends clean has verified the files. -/
theorem healOnce_clean {analyzer : Analyzer} {round : Nat} {files : List Path}
    (healed : origin.healOnce analyzer round files volume = .ok .clean final) :
    analyzer.verify round files volume = .ok none final := by
  obtain ⟨report, between, verified, ends⟩ := bind_eq_ok.1 healed
  cases report with
  | none =>
      obtain ⟨-, rfl⟩ := pure_eq_ok.1 ends
      exact verified
  | some diagnostic =>
      obtain ⟨found, after, -, told⟩ := bind_eq_ok.1 ends
      cases found <;> cases told

/-- However many rounds it took, what healing leaves verifies. -/
theorem healRounds_verified {left rounds repairs count : Nat} {last : Option Diagnostic}
    (healed : origin.healRounds .undefinedNames dir left rounds repairs last volume =
      .ok count final) :
    Analyzer.undefinedNames.verifyDirectory dir final = .ok none final := by
  induction left generalizing volume rounds repairs last with
  | zero => cases healed
  | succ left ih =>
      obtain ⟨files, listed, list, round⟩ := bind_eq_ok.1 healed
      cases Source.list_looks dir list
      obtain ⟨outcome, after, once, more⟩ := bind_eq_ok.1 round
      cases outcome with
      | clean =>
          obtain ⟨-, rfl⟩ := pure_eq_ok.1 more
          have verified := healOnce_clean once
          cases Analyzer.undefinedNames_settled.verify_looks rounds files verified
          exact bind_eq_ok.2 ⟨files, _, list, verified⟩
      | repaired diagnostic => exact ih more
      | unrepaired diagnostic => exact ih more

/-- A package that verifies is healed at once. -/
theorem healRounds_of_verified {left rounds repairs : Nat} {last : Option Diagnostic}
    (verified : Analyzer.undefinedNames.verifyDirectory dir volume = .ok none volume) :
    origin.healRounds .undefinedNames dir (left + 1) rounds repairs last volume =
      .ok repairs volume := by
  obtain ⟨files, _, listed, silent⟩ := bind_eq_ok.1 verified
  rw [Analyzer.undefinedNames_settled.verify_eq 0 rounds] at silent
  have once : origin.healOnce .undefinedNames rounds files _ = .ok .clean volume :=
    bind_eq_ok.2 ⟨none, volume, silent, rfl⟩
  exact bind_eq_ok.2 ⟨files, _, listed, bind_eq_ok.2 ⟨.clean, volume, once, rfl⟩⟩

end Origin

/-! ## Recorded names -/

namespace Pipeline

/-- Every recorded name is read as a name: it is that of a function in a file that was read. -/
theorem isName_of_publishAll {pipeline : Pipeline} {records : List Record}
    (ends : pipeline.publishAll dir volume = .ok records final) :
    ∀ record ∈ records, Token.IsName record.symbol := by
  intro record member
  obtain ⟨before, path, moved, moves⟩ := exists_moves_of_publishAll ends member
  obtain ⟨known, source, -, parsed, transformed⟩ := moves.transformed
  obtain ⟨decl, isDecl, symbol⟩ := transform_symbol transformed
  exact symbol ▸ File.parse_isName (Source.parse_eq_ok.1 parsed).1 isDecl

/-- A file with a struct and a method that is named like its constructor. -/
def methodSource : Source where
  path := ⟨"a.go"⟩
  file :=
    { doc := []
      package := .ofName "p"
      decls :=
        [.gen
          { doc := []
            keyword := .types
            grouped := false
            specs := [.type ⟨[], .ofName "F", false, .structType ⟨[], []⟩, none⟩]
            offset := none },
          .func
            { doc := []
              receiver := some ⟨[⟨[], [], .ofName "F", none, none⟩], []⟩
              name := .ofName "N"
              signature := ⟨⟨[], []⟩, some ⟨[⟨[], [], .star (.ofName "F"), none, none⟩], []⟩⟩
              body := some
                ⟨[.returning [.unary .address (.composite (some (.ofName "F")) [] false)]],
                  []⟩ }]
      trailing := [] }
  index := .ofText ""

/-- What is recorded need not be a name of the package: a method is found by its name like
a function, and the table that lists it does not resolve. -/
theorem transform_method :
    ∃ pipeline moved, Pipeline.ofTexts .standard "p" "F" "N" "" "" = .ok pipeline ∧
      pipeline.transform methodSource = (.ok (some ⟨.notInjectable, "N"⟩), moved) ∧
      (Table.file ⟨"p", "table.go"⟩ [⟨.notInjectable, "N"⟩]).firstUnresolved?
        (.ofFiles [moved.file]) = some ⟨"N", none⟩ := by
  have computed : (Pipeline.ofTexts .standard "p" "F" "N" "" "").toOption.any (fun pipeline =>
      (pipeline.transform methodSource).1.toOption.any (· = some ⟨.notInjectable, "N"⟩) &&
        (Table.file ⟨"p", "table.go"⟩ [⟨.notInjectable, "N"⟩]).firstUnresolved?
          (.ofFiles [(pipeline.transform methodSource).2.file]) = some ⟨"N", none⟩) = true := by
    decide +kernel
  obtain ⟨pipeline, read, told⟩ := exists_of_any computed
  obtain ⟨recorded, unresolved⟩ := Bool.and_eq_true_iff.1 told
  obtain ⟨record, transformed, same⟩ := exists_of_any recorded
  obtain rfl := of_decide_eq_true same
  exact ⟨pipeline, _, read, Prod.ext transformed rfl, of_decide_eq_true unresolved⟩

end Pipeline

namespace Config

variable {compiler : PatternCompiler} {config : Config}

/-! ## A run -/

namespace Steps

variable {report : Report} (steps : config.Steps compiler volume report final)

include steps

/-- Every recorded name is read as a name. -/
theorem isName : ∀ record ∈ report.records, Token.IsName record.symbol := by
  obtain ⟨_, _, -, piped⟩ := bind_eq_ok.1 steps.gather
  obtain ⟨_, _, -, published⟩ := bind_eq_ok.1 piped
  exact Pipeline.isName_of_publishAll published

/-- The directories that were there when the package was healed are there after the run. -/
theorem directories (location : Location) (stood : steps.healed.isDirectory location = true) :
    final.isDirectory location = true := by
  have writes : Conserves isDirectory (writeText (config.table.path config.directories.buildDir)
      (config.table.render report.records)) := conserves_change isDirectory_writeFile
  have emits := writes.bind fun _ => .pure (config.table.path config.directories.buildDir)
  exact (conserves_promote _ _ _).of_ok steps.promote location
    (emits.of_ok steps.emit location stood)

variable (plain : config.Plain volume.workDir) (tree : volume.IsTree)

include plain tree

/-- Handing over changes no file in the build directory. -/
theorem fileAt?_build (name : String) :
    final.fileAt? (config.directories.buildDir.location volume.workDir ++ [name]) =
      steps.assembled.fileAt? (config.directories.buildDir.location volume.workDir ++ [name]) := by
  apply (steps.frames plain tree).promote.files
  rintro ⟨other, same⟩
  exact plain.apart.outside config.directories.projectDir (by simp)
    (by rw [List.append_inj_left' same rfl])

section

variable (fresh : steps.healed.hasFile (config.directories.buildDir.location volume.workDir)
  config.package.tableFile = false)

include fresh

/-- Once the package is healed, the build directory gets the lookup table and nothing else. -/
theorem adds : Adds config.directories.buildDir config.package.tableFile
    (config.table.render report.records) steps.healed final := by
  have frames := steps.frames plain tree
  have works := frames.healed.workDir
  obtain ⟨-, proper, -, put, isText⟩ := Table.emit_eq_ok frames.heal.tree plain.apart.build
    plain.table steps.emit
  have located : (config.directories.buildDir.join config.package.tableFile).location
      steps.assembled.workDir =
        config.directories.buildDir.location volume.workDir ++ [config.package.tableFile] := by
    rw [frames.assembled.workDir, Path.location_join _ plain.apart.build plain.table]
    exact proper.follow _
  refine ⟨frames.works.trans works.symm, steps.directories, fun other apart => ?_, ?_,
    works ▸ fresh⟩
  · rw [works, steps.fileAt?_build plain tree, fileAt?_congr]
    rw [put, works]
    exact at?_put_other fun same => apart (List.singleton_inj.1 (List.append_cancel_left same))
  · refine textAt_mono ((conserves_promote _ _ _).of_ok steps.promote) frames.promote.workDir ?_
      isText
    rw [located]
    exact steps.fileAt?_build plain tree _

/-- What is published verifies exactly if the package provides every recorded name, if the lookup
table is a source file. -/
theorem verifies (unique : volume.Unique) (package : Token.IsName config.package.name) :
    ∃ sources, (Source.list config.directories.buildDir >>= fun files =>
        files.mapM Source.load) final = .ok sources final ∧
      (Analyzer.undefinedNames.verifyDirectory config.directories.buildDir final =
          .ok none final ↔
        ((config.table.path config.directories.buildDir).extension? = some Source.extension →
          ∀ record ∈ report.records, (Source.packageOf sources).Provides record.symbol)) := by
  have frames := steps.frames plain tree
  obtain ⟨-, proper, -⟩ := Table.emit_eq_ok frames.heal.tree plain.apart.build plain.table
    steps.emit
  obtain ⟨file, parsed, same⟩ := config.table.parse_file package steps.isName
  have isSource : Source.parse (config.directories.buildDir.join config.package.tableFile)
      (config.table.render report.records) = .ok ⟨_, file, _⟩ :=
    Source.parse_eq_ok.2 ⟨parsed, rfl, rfl⟩
  obtain ⟨sources, read, verifies⟩ := Analyzer.verifyDirectory_adds
    (steps.adds plain tree fresh) frames.heal.tree frames.promote.tree
    (frames.healed.unique unique) (frames.unique unique) proper (steps.holds plain tree unique)
    (Origin.healRounds_verified steps.heal) isSource (Table.declTypes_again same)
  refine ⟨sources, read, ?_⟩
  rw [verifies, Source.undefined?, Option.map_eq_none_iff, Table.firstUnresolved?_again same]
  rfl

end

end Steps

/-! ## What is published -/

/-- Put the package together in the build directory and heal it, without the lookup table.  The
records and the number of mended names are told. -/
def mend (compiler : PatternCompiler) (config : Config) : Disk (List Record × Nat) := do
  config.prepare
  let records ← config.gather compiler
  let _ ← Disk.copyDependencies config.package.dependencies config.directories.projectDir
    config.directories.buildDir
  let repairs ← config.origin.heal .undefinedNames config.maxRounds config.directories.buildDir
  return (records, repairs)

theorem Steps.mend {report : Report} (steps : config.Steps compiler volume report final) :
    config.mend compiler volume = .ok (report.records, report.repairs) steps.healed := by
  refine bind_eq_ok.2 ⟨_, _, steps.prepare, bind_eq_ok.2 ⟨_, _, steps.gather, ?_⟩⟩
  refine bind_eq_ok.2 ⟨_, _, steps.copyDependencies, bind_eq_ok.2 ⟨_, _, steps.heal, ?_⟩⟩
  exact pure_eq_ok.2 ⟨rfl, rfl⟩

/-- What a run that ends with a report has published. -/
structure Publishes (compiler : PatternCompiler) (config : Config) (volume : Volume)
    (report : Report) (healed final : Volume) : Prop where
  /-- The package was healed before there was a lookup table. -/
  mended : config.mend compiler volume = .ok (report.records, report.repairs) healed
  /-- The package verified when the lookup table was added and both were handed over. -/
  verified : ∃ written managed,
    Analyzer.undefinedNames.verifyDirectory config.directories.buildDir healed =
      .ok none healed ∧
    config.table.emit report.records config.directories.buildDir healed =
      .ok report.table written ∧
    compiler.compile config.patterns.managed = .ok managed ∧
    Disk.promote config.directories.buildDir config.directories.projectDir managed written =
      .ok report.removed final
  /-- The table itself resolves in a package exactly where that declares every recorded
  name. -/
  table : ∀ package : PackageScope,
    (config.table.file report.records).firstUnresolved? package = none ↔
      ∀ record ∈ report.records, package.Provides record.symbol
  /-- With the table, if it takes the place of no file, what is published verifies exactly if the
  table is no source file or all recorded names are provided. -/
  whole : volume.IsTree → volume.Unique → config.Plain volume.workDir →
    Token.IsName config.package.name →
    healed.hasFile (config.directories.buildDir.location volume.workDir)
      config.package.tableFile = false →
    ∃ sources, (Source.list config.directories.buildDir >>= fun files =>
        files.mapM Source.load) final = .ok sources final ∧
      (Analyzer.undefinedNames.verifyDirectory config.directories.buildDir final =
          .ok none final ↔
        ((config.table.path config.directories.buildDir).extension? = some Source.extension →
          ∀ record ∈ report.records, (Source.packageOf sources).Provides record.symbol))

/-- A run that succeeds has verified the package before it has added the lookup table.  What it
publishes verifies exactly if the package provides every recorded name. -/
theorem run_publishes {report : Report}
    (succeeds : config.run compiler volume = .ok report final) :
    ∃ healed, config.Publishes compiler volume report healed final := by
  obtain ⟨steps⟩ := exists_steps succeeds
  have verified := Origin.healRounds_verified steps.heal
  exact ⟨steps.healed, steps.mend, ⟨steps.assembled, steps.managed, verified, steps.emit,
    steps.isManaged, steps.promote⟩, fun _ => config.table.firstUnresolved?_eq_none_iff,
    fun tree unique plain package fresh => steps.verifies plain tree fresh unique package⟩

/-- A configuration for a package of an exported file and the file that declares its wrapper. -/
def wrapping : Config where
  directories := { sourceDir := ⟨"upstream"⟩, buildDir := ⟨"build"⟩, projectDir := ⟨"project"⟩ }
  package :=
    { name := "p", exports := ["^search_"], dependencies := ["inject.go"]
      tableFile := "mapping.go" }
  patterns :=
    { structures := "F", functions := "N", staging := "search_", published := "aggs_"
      managed := "^aggs_" }
  origin := { name := "elastic", path := "github.com/olivere/elastic" }
  maxRounds := 1

/-- A volume with these two files, before anything was published. -/
def exported : Volume where
  workDir := []
  entries :=
    [(["upstream"], .directory),
      (["upstream", "search_f.go"],
        .file (.text "package q\ntype F struct{}\nfunc N() *F { return &F{} }\n")),
      (["project"], .directory),
      (["project", "inject.go"], .file (.text
        "package p\ntype NotInjectable int\nfunc newNotInjectable(f *F) *NotInjectable\n"))]

/-- The volume in which the exported file is published. -/
def gathered : Volume where
  workDir := []
  entries := exported.entries ++
    [(["build"], .directory),
      (["build", "aggs_f.go"], .file (.text ("package p\n\n" ++
        "type F struct \x7b\n\t*NotInjectable\n\x7d\n\n" ++
        "func N() *F \x7b\n\ta := &F\x7b\x7d\n\ta.NotInjectable = newNotInjectable(a)\n" ++
        "\treturn a\n\x7d\n")))]

/-- The volume in which the package is put together. -/
def copied : Volume :=
  (copyDependencies ["inject.go"] ⟨"project"⟩ ⟨"build"⟩).after gathered

/-- The volume in which the lookup table is added. -/
def tabled : Volume :=
  (wrapping.table.emit [⟨.notInjectable, "N"⟩] ⟨"build"⟩).after copied

/-- The volume in which the three files are handed over. -/
def handed : Volume :=
  (Disk.makeDirectories ⟨"project"⟩ >>= fun _ => copyInto ⟨"project"⟩
    (["aggs_f.go", "inject.go", "mapping.go"].map (Path.join ⟨"build"⟩))).after tabled

/-- The exported file is published, and its constructor recorded. -/
theorem gather_exported :
    (wrapping.prepare >>= fun _ => wrapping.gather .standard) exported =
      .ok [⟨.notInjectable, "N"⟩] gathered := by
  have checked : succeeds (wrapping.prepare >>= fun _ => wrapping.gather .standard) exported
      (fun records final => records = [⟨.notInjectable, "N"⟩] && final = gathered) = true := by
    decide +kernel
  obtain ⟨records, final, ends, told⟩ := exists_ok checked
  rw [Bool.and_eq_true, decide_eq_true_eq, decide_eq_true_eq] at told
  rw [ends, told.1, told.2]

theorem copyDependencies_gathered :
    copyDependencies ["inject.go"] ⟨"project"⟩ ⟨"build"⟩ gathered =
      .ok [⟨"build/inject.go"⟩] copied :=
  eq_ok_of_succeeds (by decide +kernel)

/-- Both files refer to what the other one declares. -/
theorem verifyDirectory_copied :
    Analyzer.undefinedNames.verifyDirectory ⟨"build"⟩ copied = .ok none copied := by
  have listed : files ⟨"build"⟩ copied =
      .ok (["aggs_f.go", "inject.go"].map (Path.join ⟨"build"⟩)) copied :=
    files_of_sorted (by decide +kernel) (by decide +kernel) (by decide +kernel) (by decide +kernel)
  have sourced : (["aggs_f.go", "inject.go"].map (Path.join ⟨"build"⟩)).filter
      (·.extension? = some Source.extension) = [⟨"build/aggs_f.go"⟩, ⟨"build/inject.go"⟩] := by
    decide +kernel
  have checked : succeeds ([⟨"build/aggs_f.go"⟩, ⟨"build/inject.go"⟩].mapM Source.load) copied
      (fun sources _ => sources.all fun source =>
        (source.undefined? (Source.packageOf sources)).isNone) = true := by
    decide +kernel
  generalize copied = package at *
  obtain ⟨sources, after, loaded, clean⟩ := exists_ok checked
  cases Looks.mapM Source.load_looks _ loaded
  have list : Source.list ⟨"build"⟩ package =
      .ok [⟨"build/aggs_f.go"⟩, ⟨"build/inject.go"⟩] package :=
    bind_eq_ok.2 ⟨_, _, listed, pure_eq_ok.2 ⟨sourced, rfl⟩⟩
  refine (Analyzer.verifyDirectory_undefinedNames_eq_none (bind_eq_ok.2 ⟨_, _, list, loaded⟩)).2
    (Source.firstUndefined?_eq_none_iff.2 fun source member => ?_)
  exact Option.isNone_iff_eq_none.1 (List.all_eq_true.1 clean source member)

theorem emit_copied : wrapping.table.emit [⟨.notInjectable, "N"⟩] ⟨"build"⟩ copied =
    .ok ⟨"build/mapping.go"⟩ tabled :=
  eq_ok_of_succeeds (by decide +kernel)

/-- The files are handed over, and none is removed. -/
theorem promote_tabled : ∃ managed, PatternCompiler.standard.compile "^aggs_" = .ok managed ∧
    promote ⟨"build"⟩ ⟨"project"⟩ managed tabled = .ok [] handed := by
  have matched : (PatternCompiler.standard.compile "^aggs_").toOption.any (fun managed =>
      (["inject.go"].map (Path.join ⟨"project"⟩)).filter
        (fun path => managed.occursIn path.fileName) = []) = true := by
    decide +kernel
  have published : files ⟨"project"⟩ tabled =
      .ok (["inject.go"].map (Path.join ⟨"project"⟩)) tabled :=
    files_of_sorted (by decide +kernel) (by decide +kernel) (by decide +kernel) (by decide +kernel)
  have listed : files ⟨"build"⟩ tabled =
      .ok (["aggs_f.go", "inject.go", "mapping.go"].map (Path.join ⟨"build"⟩)) tabled :=
    files_of_sorted (by decide +kernel) (by decide +kernel) (by decide +kernel) (by decide +kernel)
  have given : (Disk.makeDirectories ⟨"project"⟩ >>= fun _ => copyInto ⟨"project"⟩
      (["aggs_f.go", "inject.go", "mapping.go"].map (Path.join ⟨"build"⟩))) tabled =
        .ok (["aggs_f.go", "inject.go", "mapping.go"].map (Path.join ⟨"project"⟩)) handed :=
    eq_ok_of_succeeds (by decide +kernel)
  generalize tabled = package, handed = final at *
  obtain ⟨managed, isManaged, unmatched⟩ := exists_of_any matched
  obtain ⟨_, between, made, copied⟩ := bind_eq_ok.1 given
  refine ⟨managed, isManaged, bind_eq_ok.2 ⟨[], package, bind_eq_ok.2 ⟨_, _, published, ?_⟩, ?_⟩⟩
  · exact pure_eq_ok.2 ⟨of_decide_eq_true unmatched, rfl⟩
  · refine bind_eq_ok.2 ⟨_, _, listed, bind_eq_ok.2 ⟨_, _, made, ?_⟩⟩
    exact bind_eq_ok.2 ⟨_, _, copied, pure_eq_ok.2 ⟨rfl, rfl⟩⟩

theorem provides_handed {sources : List Source}
    (read : (Source.list ⟨"build"⟩ >>= fun files => files.mapM Source.load) handed =
      .ok sources handed) : (Source.packageOf sources).Provides "N" := by
  have listed : files ⟨"build"⟩ handed =
      .ok (["aggs_f.go", "inject.go", "mapping.go"].map (Path.join ⟨"build"⟩)) handed :=
    files_of_sorted (by decide +kernel) (by decide +kernel) (by decide +kernel) (by decide +kernel)
  have isSource : (⟨"build/aggs_f.go"⟩ : Path) ∈
      (["aggs_f.go", "inject.go", "mapping.go"].map (Path.join ⟨"build"⟩)).filter
        (·.extension? = some Source.extension) := by
    decide +kernel
  have declared : succeeds (Source.load ⟨"build/aggs_f.go"⟩) handed (fun source _ =>
      (source.file.decls.flatMap PackageScope.declNames).contains "N") = true := by
    decide +kernel
  have named : (Ident.ofName "N").headName = "N" := by decide +kernel
  generalize handed = package at *
  obtain ⟨paths, _, list, loaded⟩ := bind_eq_ok.1 read
  obtain ⟨_, _, again, told⟩ := bind_eq_ok.1 list
  cases listed.symm.trans again
  obtain ⟨rfl, rfl⟩ := pure_eq_ok.1 told
  obtain ⟨source, member, isRead⟩ :=
    Source.exists_source_of_mem (Source.mapM_load_eq_ok.1 loaded).1 isSource
  obtain ⟨known, _, loadedAlone, declares⟩ := exists_ok declared
  obtain rfl := isRead.unique (Source.load_eq_ok.1 loadedAlone).1
  refine .inr (.inr ?_)
  rw [named, Source.names_packageOf]
  exact List.mem_flatMap.2 ⟨source, member, List.contains_iff_mem.1 declares⟩

theorem exists_steps_exported : ∃ steps : wrapping.Steps .standard exported
    ⟨[⟨.notInjectable, "N"⟩], 0, ⟨"build/mapping.go"⟩, []⟩ handed, steps.healed = copied := by
  obtain ⟨_, cleared, prepare, gather⟩ := bind_eq_ok.1 gather_exported
  obtain ⟨managed, isManaged, promote⟩ := promote_tabled
  have copies := copyDependencies_gathered
  have heal : wrapping.origin.heal .undefinedNames 1 ⟨"build"⟩ copied = .ok 0 copied :=
    Origin.healRounds_of_verified verifyDirectory_copied
  have emit := emit_copied
  generalize gathered = gathered, copied = copied, tabled = tabled, handed = handed at *
  exact ⟨{ cleared, gathered, copied, healed := copied, assembled := tabled
           targets := [⟨"build/inject.go"⟩], managed, prepare, gather
           copyDependencies := copies, heal, emit, isManaged, promote }, rfl⟩

/-- The lookup table takes no file's place and the package provides the recorded constructor, so
what is published verifies. -/
theorem run_publishes_exported : ∃ report healed final,
    wrapping.run .standard exported = .ok report final ∧
      report.records = [⟨.notInjectable, "N"⟩] ∧
      wrapping.Publishes .standard exported report healed final ∧
      Analyzer.undefinedNames.verifyDirectory ⟨"build"⟩ final = .ok none final := by
  obtain ⟨steps, isHealed⟩ := exists_steps_exported
  have runs := steps.run
  obtain ⟨healed, publishes⟩ := run_publishes runs
  have mended := publishes.mended.symm.trans steps.mend
  rw [isHealed] at mended
  have tree : exported.IsTree := by decide +kernel
  have unique : exported.Unique := by decide +kernel
  have accepted : wrapping.check .standard (workSteps exported) = .ok () :=
    check_of_isOk (by decide +kernel)
  have plain : wrapping.Plain exported.workDir :=
    ⟨apart_of_check accepted, by decide, by decide, Path.unnumbered_of_notMem (by decide)⟩
  have isPackage : Token.IsName wrapping.package.name := by decide +kernel
  have fresh : copied.hasFile (wrapping.directories.buildDir.location exported.workDir)
      wrapping.package.tableFile = false := by
    decide +kernel
  have provides := @provides_handed
  generalize copied = copied, handed = handed at *
  cases mended
  obtain ⟨sources, read, verifies⟩ := publishes.whole tree unique plain isPackage fresh
  refine ⟨_, healed, handed, runs, rfl, publishes, verifies.2 fun _ record member => ?_⟩
  cases List.mem_singleton.1 member
  exact provides read

end Config

end GoMend
