import Mathlib.Logic.Function.Iterate
import GoMend.Proofs.Repair.Progress

/-!
# Whether a repair resolves what it writes

A repair writes the name of the origin and imports the path of the origin.  It looks for the
path among the imports, but what the file declares are names: an import of the path under
another name is left alone, and a new one declares the name that the path ends in.  Where
neither is the name of the origin, nor anything else declares it, the qualified name is
reported again, after that repair and after every later one.
-/

namespace GoMend

namespace Source

variable {source : Source} {path name : String}

theorem contains_scope_iff {file : File} :
    (FileScope.ofFile file).contains name ↔
      ∃ entry ∈ file.imports, FileScope.declared? entry = some name := by
  simp [FileScope.contains, FileScope.ofFile]

/-- The added import is among the imports, unless the path was imported before. -/
theorem mem_imports_addImport_self (absent : source.hasImport path = false) :
    .ofPath none path ∈ (source.addImport none path).2.file.imports := by
  rw [addImport, if_neg (by simp [absent])]
  simp only
  cases found : extendFirstImport? (.ofPath none path) source.file.decls with
  | none =>
      refine File.mem_imports.2 ⟨.importing [.ofPath none path], List.mem_cons_self, rfl, ?_⟩
      simp [GenDecl.importing]
  | some decls =>
      obtain ⟨before, decl, after, _, isImports, rfl⟩ := extendFirstImport?_eq_some found
      refine File.mem_imports.2 ⟨{ decl with
        specs := decl.specs ++ [.imported (.ofPath none path)], grouped := true }, ?_, isImports, ?_⟩
      · exact List.mem_append_right before List.mem_cons_self
      · exact List.mem_append_right decl.specs List.mem_cons_self

/-- What a file declares with an import added. -/
theorem contains_addImport_iff :
    (FileScope.ofFile (source.addImport none path).2.file).contains name ↔
      (FileScope.ofFile source.file).contains name ∨
        source.hasImport path = false ∧
          FileScope.declared? (.ofPath none path) = some name := by
  constructor
  · intro declared
    by_cases present : source.hasImport path
    · left
      rwa [addImport, if_pos present] at declared
    · obtain ⟨entry, member, isDeclared⟩ := contains_scope_iff.1 declared
      rcases source.mem_imports_of_addImport path member with old | rfl
      · exact .inl (contains_scope_iff.2 ⟨entry, old, isDeclared⟩)
      · exact .inr ⟨by simpa using present, isDeclared⟩
  · rintro (declared | ⟨absent, isDeclared⟩)
    · exact source.contains_addImport path declared
    · exact contains_scope_iff.2 ⟨_, mem_imports_addImport_self absent, isDeclared⟩

/-- A path stays imported. -/
theorem hasImport_addImport (present : source.hasImport path) (other : String) :
    (source.addImport none other).2.hasImport path := by
  obtain ⟨entry, member, isPath⟩ := List.any_eq_true.1 present
  exact List.any_eq_true.2 ⟨entry, source.mem_imports_addImport other member, isPath⟩

end Source

namespace Origin

variable {origin : Origin} {sources : List Source} {diagnostic : Diagnostic}

/-- The name of the origin is declared where a use is met, once the origin is imported: among
the visible names, by an import, in the package or everywhere. -/
def Knows (origin : Origin) (package : PackageScope) (source : Source) (env : Env) : Prop :=
  env.contains origin.name ∨
    FileNames.contains ⟨package, .ofFile (source.addImport none origin.path).2.file⟩ origin.name

section

variable {scope new : PackageScope} {source : Source} {target : Ident} {env : Env} {start : Nat}
  (missing : Source.Missing scope source target env start) (wellPlaced : source.WellPlaced)

include missing wellPlaced

/-- What the mended file declares. -/
theorem contains_mended_iff {name : String} :
    (FileScope.ofFile (origin.mended start source).file).contains name ↔
      (∃ entry ∈ source.file.imports, FileScope.declared? entry = some name) ∨
        source.hasImport origin.path = false ∧
          FileScope.declared? (.ofPath none origin.path) = some name := by
  rw [origin.scope_mended missing wellPlaced, Source.contains_addImport_iff,
    Source.contains_scope_iff]

/-- Importing the origin again declares nothing new. -/
theorem contains_addImport_mended :
    (FileScope.ofFile ((origin.mended start source).addImport none origin.path).2.file).contains
        origin.name =
      (FileScope.ofFile (source.addImport none origin.path).2.file).contains origin.name := by
  have sameScope := origin.scope_mended missing wellPlaced
  rw [Bool.eq_iff_iff, Source.contains_addImport_iff, sameScope]
  constructor
  · rintro (declared | ⟨absent, isDeclared⟩)
    · exact declared
    · apply Source.contains_addImport_iff.2
      refine .inr ⟨?_, isDeclared⟩
      by_contra present
      have stays : (origin.mended start source).hasImport origin.path := by
        rw [Source.hasImport, origin.imports_mended missing wellPlaced]
        exact Source.hasImport_addImport (by simpa using present) origin.path
      rw [absent] at stays
      cases stays
  · exact .inl

variable (names : new.names = scope.names)

include names

/-- Mending a source teaches it nothing about the origin. -/
theorem knows_mended_iff :
    origin.Knows new (origin.mended start source) env ↔ origin.Knows scope source env := by
  rw [Knows, Knows, FileNames.contains, FileNames.contains,
    contains_addImport_mended missing wellPlaced, PackageScope.contains, PackageScope.contains,
    names]

/-- The qualified name is resolved exactly if the name of the origin is known. -/
theorem report?_mended_eq_none_iff (undotted : '.' ∉ origin.name.toList)
    (closed : (FileScope.ofFile source.file).hasDotImport = false) (offset : Option Nat) :
    (origin.mended start source).report? new
        (.use ⟨Ident.qualify origin.name target.name, offset⟩ env) = none ↔
      origin.Knows scope source env := by
  rw [origin.report?_qualified undotted, origin.scope_mended missing wellPlaced,
    Source.hasDotImport_addImport, closed, Knows, FileNames.contains, FileNames.contains,
    PackageScope.contains, PackageScope.contains, names]
  simp

/-- If the name of the origin is not known, it is reported at the place of the repair. -/
theorem report?_mended_of_unknown (undotted : '.' ∉ origin.name.toList)
    (closed : (FileScope.ofFile source.file).hasDotImport = false)
    (unknown : ¬origin.Knows scope source env) :
    (origin.mended start source).report? new
        (.use ⟨Ident.qualify origin.name target.name, target.offset⟩ env) =
      some (.undefined source.path (source.index.lines.position start) origin.name) := by
  have reported := mt (report?_mended_eq_none_iff missing wellPlaced names undotted closed
    target.offset).1 unknown
  obtain ⟨next, isNext⟩ := Option.ne_none_iff_exists'.1 reported
  obtain ⟨_, _, same, _, _, _, _, rfl⟩ := Source.report?_eq_some isNext
  cases same
  rw [isNext, mended_path, mended_index, missing.place, Option.getD_some,
    Ident.headName_qualify undotted]

end

/-- A report whose repair does not resolve the name that it writes. -/
structure Stuck (origin : Origin) (sources : List Source) (diagnostic : Diagnostic) : Prop where
  orderly : Source.Orderly sources
  reported : Source.firstUndefined? sources = some diagnostic
  unknown : ∃ source ∈ sources, ∃ target env start,
    Source.Missing (Source.packageOf sources) source target env start ∧
      source.index.Marks start ∧
      source.report? (Source.packageOf sources) (.use target env) = some diagnostic ∧
      ¬origin.Knows (Source.packageOf sources) source env

/-- A repair leaves a report of the qualifier in the same place. -/
theorem Stuck.advance (stuck : origin.Stuck sources diagnostic)
    (undotted : '.' ∉ origin.name.toList) :
    origin.Stuck (origin.advance sources)
      (.undefined diagnostic.path diagnostic.position origin.name) := by
  obtain ⟨orderly, reported, source, member, target, env, start, missing, marked, isReport,
    unknown⟩ := stuck
  obtain ⟨_, _, same, closed, _, _, _, rfl⟩ := Source.report?_eq_some isReport
  cases same
  rw [missing.place, Option.getD_some] at reported isReport ⊢
  have wellPlaced := orderly.wellPlaced source member
  have names : (Source.packageOf (sources.map (origin.mendAt source.path start))).names = _ :=
    names_mendAt orderly member missing
  have again := report?_mended_of_unknown missing wellPlaced names undotted closed unknown
  have repaired := repaired_mendAt orderly member missing marked isReport again
  obtain ⟨index, reportedAt⟩ := Source.firstUndefined?_eq_some.1 reported
  rw [advance_eq orderly member missing marked reported]
  refine ⟨orderly_mendAt orderly member missing,
    Source.firstUndefined?_eq_some.2 ⟨index, reportedAt.of_repaired repaired⟩,
    origin.mended start source, ?_, ⟨Ident.qualify origin.name target.name, target.offset⟩, env,
    start, ?_, ?_, again, ?_⟩
  · exact List.mem_map.2 ⟨source, member, mendAt_self⟩
  · refine ⟨?_, missing.place, Ident.isBlank_qualify, ?_⟩
    · rw [origin.visits_mended missing wellPlaced (undeclared_target orderly missing)
        (undeclared_qualified orderly member missing) (alike_mendAt orderly member missing)]
      refine List.mem_map.2 ⟨_, missing.met, ?_⟩
      rw [Visit.rename, Source.qualifyAt_of_eq missing.place]
    · rw [Ident.headName_qualify undotted, names]
      intro declared
      apply unknown
      right
      simp [FileNames.contains, PackageScope.contains, declared]
  · rwa [mended_index]
  · exact mt (knows_mended_iff missing wellPlaced names).1 unknown

/-- The qualifier is reported in the same place after every number of repairs. -/
theorem Stuck.iterate (stuck : origin.Stuck sources diagnostic)
    (undotted : '.' ∉ origin.name.toList) (repairs : Nat) :
    origin.Stuck (origin.advance^[repairs + 1] sources)
      (.undefined diagnostic.path diagnostic.position origin.name) := by
  induction repairs with
  | zero => exact stuck.advance undotted
  | succ repairs ih =>
      rw [Function.iterate_succ_apply']
      exact ih.advance undotted

/-- A repair resolves the name that it writes exactly if the name of the origin is known
there.  Then the next report, if there is one, is about a later occurrence; otherwise the
qualifier itself is reported at the same place from then on.  The mended file declares the
name of the origin by an import exactly if one of the old imports does, or if the path of the
origin was not imported and ends in that name. -/
theorem advance_outcome (read : ∀ source ∈ sources, source.IsRead)
    (distinct : sources.Pairwise fun one other => ¬one.path.same other.path)
    (undotted : '.' ∉ origin.name.toList)
    (reported : Source.firstUndefined? sources = some diagnostic) :
    ∃ source ∈ sources, source.path = diagnostic.path ∧
      ∃ mended ∈ origin.advance sources, origin.mend? diagnostic.position source = some mended ∧
      ((FileScope.ofFile mended.file).contains origin.name ↔
        (∃ entry ∈ source.file.imports, FileScope.declared? entry = some origin.name) ∨
          source.hasImport origin.path = false ∧
            FileScope.declared? (.ofPath none origin.path) = some origin.name) ∧
      ∃ target env, .use target env ∈ source.file.visits (Source.packageOf sources) ∧
        source.index.lines.position (target.offset.getD 0) = diagnostic.position ∧
        ((env.contains origin.name ∨ FileNames.contains
            ⟨Source.packageOf sources, .ofFile mended.file⟩ origin.name) →
          ∃ index, Source.ReportedAt sources diagnostic index ∧
            ∀ next, Source.firstUndefined? (origin.advance sources) = some next →
              ∃ later, index < later ∧ Source.ReportedAt (origin.advance sources) next later) ∧
        (¬(env.contains origin.name ∨ FileNames.contains
            ⟨Source.packageOf sources, .ofFile mended.file⟩ origin.name) →
          ∀ repairs, Source.firstUndefined? (origin.advance^[repairs + 1] sources) =
            some (.undefined diagnostic.path diagnostic.position origin.name)) := by
  have orderly : Source.Orderly sources := .ofRead read distinct
  obtain ⟨source, member, target, env, start, missing, marked, isReport, same⟩ :=
    orderly.missing reported
  have wellPlaced := orderly.wellPlaced source member
  have isPath : source.path = diagnostic.path := (congrArg Diagnostic.path same).symm
  have isPosition : source.index.lines.position start = diagnostic.position :=
    (congrArg Diagnostic.position same).symm
  have isMended : origin.mended start source ∈ origin.advance sources := by
    rw [advance_eq orderly member missing marked (same ▸ reported)]
    exact List.mem_map.2 ⟨source, member, mendAt_self⟩
  refine ⟨source, member, isPath, origin.mended start source, isMended, ?_,
    contains_mended_iff missing wellPlaced, target, env, missing.met, ?_, ?_, ?_⟩
  · rw [← isPosition]
    exact origin.mend?_position missing wellPlaced marked
  · rw [missing.place, Option.getD_some, isPosition]
  · intro known
    rw [origin.scope_mended missing wellPlaced] at known
    obtain ⟨_, _, _, closed, _⟩ := Source.report?_eq_some isReport
    have names : (Source.packageOf (sources.map (origin.mendAt source.path start))).names = _ :=
      names_mendAt orderly member missing
    have resolved := (report?_mended_eq_none_iff missing wellPlaced names undotted closed
      target.offset).2 known
    have repaired := repaired_mendAt orderly member missing marked isReport resolved
    obtain ⟨index, reportedAt⟩ := Source.firstUndefined?_eq_some.1 reported
    refine ⟨index, reportedAt, ?_⟩
    intro next nextReported
    obtain ⟨later, nextAt⟩ := Source.firstUndefined?_eq_some.1 nextReported
    rw [advance_eq orderly member missing marked (same ▸ reported)] at nextAt ⊢
    exact ⟨later, reportedAt.lt_of_repaired repaired nextAt, nextAt⟩
  · intro unknown repairs
    rw [origin.scope_mended missing wellPlaced] at unknown
    have stuck : origin.Stuck sources diagnostic :=
      ⟨orderly, reported, source, member, target, env, start, missing, marked, isReport, unknown⟩
    exact (stuck.iterate undotted repairs).reported

/-- A name that is resolved by the import of the origin. -/
theorem advance_outcome_imported :
    ∃ source mended : Source,
      Source.firstUndefined? [source] = some (.undefined ⟨"a.go"⟩ ⟨2, 9⟩ "y") ∧
      mended ∈ (Origin.mk "q" "lib/q").advance [source] ∧
      (FileScope.ofFile mended.file).contains "q" := by
  have checked : (Source.parse ⟨"a.go"⟩ "package p\nvar x = y").toOption.map (fun source =>
      (source.path, source.undefined? (Source.packageOf [source]), source.hasImport "lib/q",
        FileScope.declared? (.ofPath none "lib/q"))) =
      some (⟨"a.go"⟩, some (.undefined ⟨"a.go"⟩ ⟨2, 9⟩ "y"), false, some "q") := by
    decide +kernel
  cases parsed : Source.parse ⟨"a.go"⟩ "package p\nvar x = y" with
  | error fault => simp [parsed, Except.toOption] at checked
  | ok source =>
      simp only [parsed, Except.toOption, Option.map_some, Option.some.injEq,
        Prod.mk.injEq] at checked
      obtain ⟨path, reported, absent, named⟩ := checked
      rw [← Source.firstUndefined?_singleton] at reported
      have read : ∀ other ∈ [source], other.IsRead := by simpa using ⟨_, path ▸ parsed⟩
      obtain ⟨other, member, _, mended, inAdvance, _, declares, _⟩ :=
        advance_outcome read (List.pairwise_singleton _ source)
          (show '.' ∉ (Origin.mk "q" "lib/q").name.toList by decide) reported
      cases List.mem_singleton.1 member
      exact ⟨source, mended, reported, inAdvance, declares.2 (.inr ⟨absent, named⟩)⟩

/-- The path of the origin is imported under another name: the file does not declare the name
of the origin, and the qualifier is reported in place of the name that was mended. -/
theorem advance_outcome_aliased :
    ∃ source mended : Source,
      Source.firstUndefined? [source] = some (.undefined ⟨"a.go"⟩ ⟨3, 9⟩ "Bar") ∧
      (FileScope.ofFile source.file).hasDotImport = false ∧
      (Origin.mk "elastic" "github.com/olivere/elastic").mend? ⟨3, 9⟩ source = some mended ∧
      (FileScope.ofFile mended.file).contains "elastic" = false ∧
      Source.firstUndefined? [mended] = some (.undefined ⟨"a.go"⟩ ⟨3, 9⟩ "elastic") := by
  have checked : (Source.parse ⟨"a.go"⟩
      "package p\nimport es \"github.com/olivere/elastic\"\nvar x = Bar").toOption.bind
        (fun source => ((Origin.mk "elastic" "github.com/olivere/elastic").mend? ⟨3, 9⟩
          source).map fun mended =>
            (source.undefined? (Source.packageOf [source]),
              (FileScope.ofFile source.file).hasDotImport,
              (FileScope.ofFile mended.file).contains "elastic",
              mended.undefined? (Source.packageOf [mended]))) =
      some (some (.undefined ⟨"a.go"⟩ ⟨3, 9⟩ "Bar"), false, false,
        some (.undefined ⟨"a.go"⟩ ⟨3, 9⟩ "elastic")) := by
    decide +kernel
  obtain ⟨source, _, checked⟩ := Option.bind_eq_some_iff.1 checked
  obtain ⟨mended, isMended, checked⟩ := Option.map_eq_some_iff.1 checked
  simp only [Prod.mk.injEq] at checked
  obtain ⟨found, closed, undeclared, again⟩ := checked
  rw [← Source.firstUndefined?_singleton] at found again
  exact ⟨source, mended, found, closed, isMended, undeclared, again⟩

/-- The reported name is the package of a type name.  The mended file has a type name of three
parts, which cannot be read. -/
theorem mend?_unreadable :
    ∃ (source mended : Source) (file : File),
      File.parse source.render = .ok file ∧
      Source.firstUndefined? [source] = some (.undefined ⟨"a.go"⟩ ⟨2, 7⟩ "foo") ∧
      (Origin.mk "elastic" "github.com/olivere/elastic").mend? ⟨2, 7⟩ source = some mended ∧
      ∀ read, File.parse mended.render ≠ .ok read := by
  have checked : (Source.parse ⟨"a.go"⟩ "package p\nvar x foo.Bar").toOption.bind
        (fun source => ((Origin.mk "elastic" "github.com/olivere/elastic").mend? ⟨2, 7⟩
          source).map fun mended =>
            ((File.parse source.render).toOption.isSome,
              source.undefined? (Source.packageOf [source]),
              (File.parse mended.render).toOption.isSome)) =
      some (true, some (.undefined ⟨"a.go"⟩ ⟨2, 7⟩ "foo"), false) := by
    decide +kernel
  obtain ⟨source, _, checked⟩ := Option.bind_eq_some_iff.1 checked
  obtain ⟨mended, isMended, checked⟩ := Option.map_eq_some_iff.1 checked
  simp only [Prod.mk.injEq] at checked
  obtain ⟨readable, found, unreadable⟩ := checked
  rw [← Source.firstUndefined?_singleton] at found
  cases parsed : File.parse source.render with
  | error fault => simp [parsed, Except.toOption] at readable
  | ok file =>
      refine ⟨source, mended, file, parsed, found, isMended, ?_⟩
      intro read isRead
      simp [isRead, Except.toOption] at unreadable

end Origin

end GoMend
