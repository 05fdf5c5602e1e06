import GoMend.Proofs.Repair.Undefined
import GoMend.Proofs.Scope.Packages
import GoMend.Proofs.Unit.Importing
import GoMend.Proofs.Unit.Placement
import GoMend.Repair.Heal

/-!
# Mending one source

Mending imports the origin and qualifies one name.  In the source that is mended every other
name stays as it is, and so do the names and the types that the source declares.
-/

namespace GoMend

namespace Ident

variable {package name : String}

/-- A qualified name is looked up by its package. -/
theorem headName_qualify (plain : '.' ∉ package.toList) (offset : Option Nat) :
    headName ⟨qualify package name, offset⟩ = package := by
  have spelled : (qualify package name).toList = package.toList ++ '.' :: name.toList := by
    simp [qualify]
  have before : ∀ c ∈ package.toList, (c != '.') = true := fun c member =>
    bne_iff_ne.2 fun isDot => plain (isDot ▸ member)
  rw [headName, spelled, List.takeWhile_append_of_pos before]
  simp

theorem dot_mem_qualify : '.' ∈ (qualify package name).toList := by
  simp [qualify]

/-- A qualified name is not the one that binds nothing. -/
theorem isBlank_qualify {offset : Option Nat} :
    isBlank ⟨qualify package name, offset⟩ = false := by
  apply beq_eq_false_iff_ne.2
  intro isBlank
  have dotted : '.' ∈ "_".toList := isBlank ▸ dot_mem_qualify
  exact absurd dotted (by decide)

end Ident

/-- No name of the package holds a dot. -/
def PackageScope.Plain (scope : PackageScope) : Prop :=
  ∀ name ∈ scope.names, '.' ∉ name.toList

namespace Decl

variable {decl : Decl} (change : Ident → Ident)

theorem IsImport.rebuild (isImport : decl.IsImport) :
    (decl.rebuild change fun _ => none).IsImport := by
  cases decl with
  | func decl => exact isImport
  | gen decl =>
      obtain ⟨_, _, _, specs, _⟩ := decl
      refine ⟨isImport.1, ?_⟩
      have imported := isImport.2
      change ∀ spec ∈ Spec.rebuildAll change (fun _ => none) specs, spec.IsImport
      rw [Spec.rebuildAll_eq_map]
      intro spec member
      obtain ⟨old, inSpecs, rfl⟩ := List.mem_map.1 member
      have oldImport := imported old inSpecs
      cases old with
      | imported entry => trivial
      | value | type => exact oldImport.elim

theorem IsOther.rebuild (isOther : decl.IsOther) :
    (decl.rebuild change fun _ => none).IsOther := by
  cases decl with
  | func decl => exact isOther
  | gen decl =>
      obtain ⟨_, _, _, _, _⟩ := decl
      exact isOther

end Decl

namespace Source

namespace WellPlaced

variable {source : Source}

theorem addImport (wellPlaced : source.WellPlaced) (path : String) :
    (source.addImport none path).2.WellPlaced := by
  refine ⟨?_, fun decl member => ?_⟩
  · rw [idents_addImport]
    exact wellPlaced.distinct
  · rw [addImport_index]
    rcases (source.addImport_imports none path).mem member with kept | rfl | ⟨old, kept, isImports, rfl⟩
    · exact wellPlaced.marked decl kept
    · exact .inl ⟨rfl, by simp [GenDecl.importing, Spec.IsImport]⟩
    · have oldImport : (Decl.gen old).IsImport :=
        (wellPlaced.marked _ kept).resolve_right fun isOther => isOther.1 isImports
      refine .inl ⟨isImports, fun spec inSpecs => ?_⟩
      rcases List.mem_append.1 inSpecs with inOld | isEntry
      · exact oldImport.2 spec inOld
      · rw [List.mem_singleton.1 isEntry]
        trivial

theorem mapIdents (wellPlaced : source.WellPlaced) {change : Ident → Ident}
    (sameOffsets : ∀ ident, (change ident).offset = ident.offset) :
    WellPlaced { source with file := source.file.mapIdents change } := by
  refine ⟨?_, fun decl member => ?_⟩
  · rw [File.idents_mapIdents, List.map_map]
    simpa [Function.comp_def, sameOffsets] using wellPlaced.distinct
  · obtain ⟨old, kept, rfl⟩ := List.mem_map.1 member
    rcases wellPlaced.marked old kept with isImport | ⟨isOther, marked⟩
    · exact .inl (isImport.rebuild change)
    · refine .inr ⟨isOther.rebuild change, fun ident inDecl => ?_⟩
      rw [Decl.idents_rebuild] at inDecl
      obtain ⟨oldIdent, inOld, rfl⟩ := List.mem_map.1 inDecl
      rw [sameOffsets]
      exact marked oldIdent inOld

end WellPlaced

/-! ## The reported name -/

/-- A use whose name the package does not declare, at its place. -/
structure Missing (scope : PackageScope) (source : Source) (target : Ident) (env : Env)
    (start : Nat) : Prop where
  met : .use target env ∈ source.file.visits scope
  place : target.offset = some start
  notBlank : target.isBlank = false
  unknown : target.headName ∉ scope.names

namespace Missing

variable {scope new : PackageScope} {source : Source} {target ident : Ident} {env : Env}
  {start : Nat}

/-- What is reported about a visit is that a name is missing, at the place of the visit. -/
theorem of_report? {diagnostic : Diagnostic} {visit : Visit} (wellPlaced : source.WellPlaced)
    (met : visit ∈ source.file.visits scope)
    (isReport : source.report? scope visit = some diagnostic) :
    ∃ target env start, visit = .use target env ∧ Missing scope source target env start ∧
      source.index.Marks start ∧ diagnostic = .undefined source.path
        (source.index.lines.position start) target.headName := by
  obtain ⟨start, place, marked⟩ := wellPlaced.marks met
  obtain ⟨target, env, rfl, _, notBlank, _, unknown, rfl⟩ := report?_eq_some isReport
  refine ⟨target, env, start, rfl, ⟨met, place, notBlank, ?_⟩, marked, ?_⟩
  · intro declared
    simp [FileNames.contains, PackageScope.contains, declared] at unknown
  · simp only [Visit.ident] at place
    rw [place, Option.getD_some]

theorem mem_idents (missing : Missing scope source target env start) :
    target ∈ source.file.idents :=
  (File.visits_among scope source.file).mem missing.met

/-- A name of the file that is not the reported one stays as it is. -/
theorem qualifyAt_eq_self (missing : Missing scope source target env start)
    (wellPlaced : source.WellPlaced) (package : String) (member : ident ∈ source.file.idents)
    (different : ident ≠ target) : qualifyAt package start ident = ident :=
  qualifyAt_of_ne fun same => different
    (wellPlaced.eq_of_offset_eq member missing.mem_idents (same.trans missing.place.symm))

/-- The reported name is none that the package declares, even with a dot in it. -/
theorem name_not_mem (missing : Missing scope source target env start)
    (plain : scope.Plain) : target.name ∉ scope.names := by
  intro member
  have isPlain : target.IsPlain := plain target.name member
  exact missing.unknown (isPlain.headName ▸ member)

/-- Where the package declares a name nothing is changed. -/
theorem keeps_binds (missing : Missing scope source target env start)
    (wellPlaced : source.WellPlaced) (plain : scope.Plain)
    (declared : source.file.decls.flatMap PackageScope.declNames ⊆ scope.names)
    (package : String) :
    ∀ decl ∈ source.file.decls, ∀ ident ∈ decl.binds, qualifyAt package start ident = ident := by
  intro decl inDecls ident inDecl
  have inFile : ident ∈ source.file.idents := List.mem_append_right _
    (List.mem_flatMap.2 ⟨decl, inDecls, Decl.mem_idents_of_mem_binds inDecl⟩)
  refine missing.qualifyAt_eq_self wellPlaced package inFile ?_
  rintro rfl
  rcases PackageScope.mem_declNames_of_mem_binds inDecl with blank | isName
  · rw [missing.notBlank] at blank
    cases blank
  · exact missing.name_not_mem plain (declared (List.mem_flatMap.2 ⟨decl, inDecls, isName⟩))

/-- Qualifying the reported name changes no place that declares a name and no shape. -/
theorem spared (missing : Missing scope source target env start) (wellPlaced : source.WellPlaced)
    (package : String) (undeclared : scope.declaredType? target.name = none)
    (qualified : ∀ name, '.' ∈ name.toList → new.declaredType? name = none) :
    ∀ visit ∈ source.file.visits scope,
      visit.Spared scope new (qualifyAt package start) := by
  intro visit met
  have among := File.visits_among scope source.file
  cases visit with
  | use ident env =>
      by_cases same : ident = target
      · subst same
        rw [Visit.Spared, qualifyAt_of_eq missing.place]
        exact .inr ⟨undeclared, qualified _ Ident.dot_mem_qualify⟩
      · exact .inl (missing.qualifyAt_eq_self wellPlaced package (among.mem met) same)
  | binder ident =>
      refine missing.qualifyAt_eq_self wellPlaced package (among.mem met) ?_
      rintro rfl
      cases List.inj_on_of_nodup_map (among.nodup wellPlaced.distinct) met missing.met rfl

/-- Qualifying the reported name changes no import. -/
theorem keeps_imports (missing : Missing scope source target env start)
    (wellPlaced : source.WellPlaced) (package : String) :
    ∀ entry ∈ source.file.imports,
      entry.name.map (qualifyAt package start) = entry.name := by
  intro entry member
  cases named : entry.name with
  | none => rfl
  | some ident =>
      have apart := wellPlaced.import_apart missing.met member named
      exact congrArg some (qualifyAt_of_ne fun same => apart (same.trans missing.place.symm))

/-- An import does not hide the reported name. -/
theorem addImport (missing : Missing scope source target env start) (path : String) :
    Missing scope (source.addImport none path).2 target env start where
  met := by
    rw [visits_addImport]
    exact missing.met
  place := missing.place
  notBlank := missing.notBlank
  unknown := missing.unknown

end Missing

end Source

/-! ## The mended source -/

namespace Origin

variable {scope new : PackageScope} {source : Source} {target : Ident} {env : Env}
  {start : Nat}

/-- A source with the origin imported and the name at an offset qualified. -/
def mended (origin : Origin) (start : Nat) (source : Source) : Source :=
  { (source.addImport none origin.path).2 with
    file := (source.addImport none origin.path).2.file.mapIdents
      (Source.qualifyAt origin.name start) }

variable (origin : Origin)

@[simp] theorem mended_path : (origin.mended start source).path = source.path :=
  source.addImport_path none origin.path

@[simp] theorem mended_index : (origin.mended start source).index = source.index :=
  source.addImport_index none origin.path

theorem wellPlaced_mended (wellPlaced : source.WellPlaced) :
    (origin.mended start source).WellPlaced :=
  (wellPlaced.addImport origin.path).mapIdents (Source.qualifyAt_offset origin.name start)

section

variable (missing : Source.Missing scope source target env start) (wellPlaced : source.WellPlaced)

include missing wellPlaced

/-- The reported name is mended. -/
theorem mend?_position (marked : source.index.Marks start) :
    origin.mend? (source.index.lines.position start) source =
      some (origin.mended start source) := by
  have imported := missing.addImport origin.path
  have importedMarked : (source.addImport none origin.path).2.index.Marks start := by
    rwa [Source.addImport_index]
  rw [← source.addImport_index none origin.path]
  exact congrArg (Option.map Prod.snd) ((wellPlaced.addImport origin.path).qualify_position
    imported.mem_idents missing.place importedMarked)

theorem imports_mended :
    (origin.mended start source).file.imports =
      (source.addImport none origin.path).2.file.imports :=
  File.imports_rebuild ((missing.addImport origin.path).keeps_imports
    (wellPlaced.addImport origin.path) origin.name)

theorem scope_mended :
    FileScope.ofFile (origin.mended start source).file =
      FileScope.ofFile (source.addImport none origin.path).2.file := by
  rw [FileScope.ofFile, FileScope.ofFile, origin.imports_mended missing wellPlaced]

variable (plain : scope.Plain)
  (declared : source.file.decls.flatMap PackageScope.declNames ⊆ scope.names)

include plain declared

theorem keeps_mended :
    ∀ decl ∈ (source.addImport none origin.path).2.file.decls, ∀ ident ∈ decl.binds,
      Source.qualifyAt origin.name start ident = ident :=
  (missing.addImport origin.path).keeps_binds (wellPlaced.addImport origin.path) plain
    (by rwa [Source.declNames_addImport]) origin.name

/-- Mending keeps the names that a source declares. -/
theorem declNames_mended :
    (origin.mended start source).file.decls.flatMap PackageScope.declNames =
      source.file.decls.flatMap PackageScope.declNames :=
  (PackageScope.declNamesAll_rebuild TypeSpec.Renames.none _
    (origin.keeps_mended missing wellPlaced plain declared)).trans
    (source.declNames_addImport origin.path)

variable (undeclared : scope.declaredType? target.name = none)
  (qualified : ∀ name, '.' ∈ name.toList → new.declaredType? name = none)

include undeclared qualified

/-- Mending keeps the types that a source declares alike. -/
theorem declTypes_mended :
    List.Forall₂ (PackageScope.SameType scope new)
      (source.file.decls.flatMap PackageScope.declTypes)
      ((origin.mended start source).file.decls.flatMap PackageScope.declTypes) := by
  rw [← source.declTypes_addImport origin.path]
  exact PackageScope.declTypesAll_rebuild TypeSpec.Renames.none (by rintro _ _ ⟨⟩) _
    (origin.keeps_mended missing wellPlaced plain declared)
    ((missing.addImport origin.path).spared (wellPlaced.addImport origin.path) origin.name
      undeclared qualified)

omit plain declared in
/-- Resolution meets the uses of a mended source as before. -/
theorem visits_mended (packages : PackageScope.Alike scope new) :
    (origin.mended start source).file.visits new =
      (source.file.visits scope).map (.rename (Source.qualifyAt origin.name start)) := by
  rw [← source.visits_addImport origin.path]
  exact File.visits_mapIdents _ _ packages
    ((missing.addImport origin.path).spared (wellPlaced.addImport origin.path) origin.name
      undeclared qualified)

end

/-! ## Reports on the mended source -/

/-- What was not reported about a source is not reported after it is mended. -/
theorem report?_kept (missing : Source.Missing scope source target env start)
    (wellPlaced : source.WellPlaced) (names : new.names = scope.names) {visit : Visit}
    (quiet : source.report? scope visit = none) :
    (origin.mended start source).report? new visit = none := by
  have sameScope := origin.scope_mended missing wellPlaced
  apply Source.report?_mono _ _ (by simp [names]) quiet
  · rw [sameScope, Source.hasDotImport_addImport]
  · intro name declared
    exact sameScope ▸ source.contains_addImport origin.path declared

/-- A qualified name is not reported exactly if its qualifier is declared, among the visible
names, by an import, in the package or everywhere. -/
theorem report?_qualified {other : Source} {name : String} {offset : Option Nat} {env : Env}
    (undotted : '.' ∉ origin.name.toList) :
    other.report? new (.use ⟨Ident.qualify origin.name name, offset⟩ env) = none ↔
      (FileScope.ofFile other.file).hasDotImport ∨ env.contains origin.name ∨
        FileNames.contains ⟨new, .ofFile other.file⟩ origin.name := by
  rw [Source.report?_use, Ident.headName_qualify undotted, Ident.isBlank_qualify]
  simp

end Origin

end GoMend
