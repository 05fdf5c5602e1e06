import GoMend.Proofs.Repair.Progress
import GoMend.Proofs.Repair.Replacement
import GoMend.Proofs.Scope.Spelling

/-!
# Repaired sources as they would be read

Repairs qualify names in memory, where a qualified name is still one occurrence of a name.  The
check of a package reports the same as if every such name were spelled out as the selection of a
member of its package, which is what would be read back from the text of the sources.  What makes
this so holds of sources that were read and is kept by every repair: a name with a dot begins with
a package that its file imports, and nothing that is declared has a dot in its name.
-/

namespace GoMend

namespace Source

/-- Spell out the names in a source. -/
def spelledOut (source : Source) : Source :=
  { source with file := source.file.spelledOut }

/-- Import some paths, one after the other. -/
def importAll (paths : List String) (source : Source) : Source :=
  paths.foldl (fun source path => (source.addImport none path).2) source

/-- What repairs make of sources that were read.  A source may import further paths.  The source
that the first report is about may import some and have the name at the reported position
qualified by a package that it then imports. -/
inductive Repaired : List Source → Prop
  | read {sources : List Source} : (∀ source ∈ sources, source.IsRead) → Repaired sources
  | imported {before after : List Source} {source : Source} (paths : List String) :
      Repaired (before ++ source :: after) → Repaired (before ++ source.importAll paths :: after)
  | qualified {before after : List Source} {source next : Source} {diagnostic : Diagnostic}
      {package name : String} (paths : List String) : Repaired (before ++ source :: after) →
      firstUndefined? (before ++ source :: after) = some diagnostic →
      source.undefined? (packageOf (before ++ source :: after)) = some diagnostic →
      (source.importAll paths).qualify diagnostic.position package = some (name, next) →
      (FileScope.ofFile next.file).contains package →
      Repaired (before ++ next :: after)

variable {sources before after : List Source} {source next : Source} {scope new : PackageScope}
  {diagnostic : Diagnostic} {package : String}

/-- Mending the reported name is a repair if the name of the origin is imported then. -/
theorem Repaired.mend {origin : Origin} (repaired : Repaired (before ++ source :: after))
    (reported : firstUndefined? (before ++ source :: after) = some diagnostic)
    (about : source.undefined? (packageOf (before ++ source :: after)) = some diagnostic)
    (mended : origin.mend? diagnostic.position source = some next)
    (declared : (FileScope.ofFile next.file).contains origin.name) :
    Repaired (before ++ next :: after) := by
  obtain ⟨⟨name, _⟩, isQualified, rfl⟩ := Option.map_eq_some_iff.1 mended
  exact .qualified [origin.path] repaired reported about isQualified declared

/-! ## What repairs keep -/

/-- A source in which a name has no dot or begins with a package that the file imports, and what
is declared has none. -/
structure Qualified (scope : PackageScope) (source : Source) : Prop where
  wellPlaced : source.WellPlaced
  undotted : ∀ name, (FileScope.ofFile source.file).contains name → '.' ∉ name.toList
  names : ∀ decl ∈ source.file.decls, decl.IsImport ∨ ∀ ident ∈ decl.idents,
    ident.IsPlain ∨ (FileScope.ofFile source.file).contains ident.headName
  binders : ∀ ident, .binder ident ∈ source.file.visits scope → ident.IsPlain

/-- Sources whose names are qualified by imports, of a package that declares no name with a
dot. -/
structure AllQualified (sources : List Source) : Prop where
  plain : (packageOf sources).Plain
  each : ∀ source ∈ sources, source.Qualified (packageOf sources)

namespace Qualified

theorem alike (qualified : source.Qualified scope) (packages : PackageScope.Alike scope new) :
    source.Qualified new :=
  { qualified with
    binders := by
      rw [File.visits_alike packages]
      exact qualified.binders }

theorem ofRead (isRead : source.IsRead) : source.Qualified scope where
  wellPlaced := isRead.wellPlaced
  undotted := by
    obtain ⟨text, read, _⟩ := isRead.text
    exact fun name => File.undotted_of_contains fun ident member =>
      (File.parse_reads read).2.plain_or_dot member
  names := by
    obtain ⟨text, read, _⟩ := isRead.text
    intro decl member
    exact ((File.parse_reads read).2.plain member).imp_right fun ⟨_, plain⟩ ident inDecl =>
      .inl (plain ident inDecl)
  binders := fun _ met => isRead.visit_plain met

/-- An import keeps names qualified. -/
theorem addImport (qualified : source.Qualified scope) (path : String) :
    (source.addImport none path).2.Qualified scope where
  wellPlaced := qualified.wellPlaced.addImport path
  undotted := fun name declared =>
    (source.contains_of_addImport path declared).elim (qualified.undotted name) id
  names := by
    intro decl member
    rcases (qualified.wellPlaced.addImport path).marked decl member with isImport | ⟨isOther, _⟩
    · exact .inl isImport
    rcases (source.addImport_imports none path).mem member with kept | rfl | ⟨_, _, isImports, rfl⟩
    · exact (qualified.names decl kept).imp_right fun names ident inDecl =>
        (names ident inDecl).imp_right (source.contains_addImport path)
    · exact absurd rfl isOther
    · exact absurd isImports isOther
  binders := by
    rw [visits_addImport]
    exact qualified.binders

theorem importAll (qualified : source.Qualified scope) (paths : List String) :
    (source.importAll paths).Qualified scope := by
  induction paths generalizing source with
  | nil => exact qualified
  | cons path rest ih => exact ih (qualified.addImport path)

end Qualified

/-! ## Imports -/

section

variable (source) (paths : List String)

theorem visits_importAll :
    (source.importAll paths).file.visits scope = source.file.visits scope := by
  induction paths generalizing source with
  | nil => rfl
  | cons path rest ih => exact (ih _).trans (source.visits_addImport path scope)

theorem index_importAll : (source.importAll paths).index = source.index := by
  induction paths generalizing source with
  | nil => rfl
  | cons path rest ih => exact (ih _).trans (source.addImport_index none path)

/-- Imports do not change the package. -/
theorem packageOf_importAll : packageOf (before ++ source.importAll paths :: after) =
    packageOf (before ++ source :: after) := by
  induction paths generalizing source with
  | nil => rfl
  | cons path rest ih =>
      refine (ih _).trans ?_
      simp only [packageOf, PackageScope.ofFiles, List.map_append, List.map_cons,
        List.flatMap_append, List.flatMap_cons, declNames_addImport, declTypes_addImport]

end

namespace AllQualified

theorem ofRead (read : ∀ source ∈ sources, source.IsRead) : AllQualified sources where
  plain := plain_packageOf read
  each := fun source member => .ofRead (read source member)

/-- One source is replaced by a qualified one that makes the package alike. -/
theorem replace (all : AllQualified (before ++ source :: after))
    (names : (packageOf (before ++ next :: after)).names =
      (packageOf (before ++ source :: after)).names)
    (packages : PackageScope.Alike (packageOf (before ++ source :: after))
      (packageOf (before ++ next :: after)))
    (qualified : next.Qualified (packageOf (before ++ next :: after))) :
    AllQualified (before ++ next :: after) where
  plain := by
    rw [PackageScope.Plain, names]
    exact all.plain
  each := by
    intro other member
    rcases List.mem_append.1 member with inBefore | inRest
    · exact (all.each other (List.mem_append_left _ inBefore)).alike packages
    rcases List.mem_cons.1 inRest with rfl | inAfter
    · exact qualified
    · exact (all.each other (List.mem_append_right _ (List.mem_cons_of_mem _ inAfter))).alike
        packages

theorem importAll (all : AllQualified (before ++ source :: after)) (paths : List String) :
    AllQualified (before ++ source.importAll paths :: after) := by
  have same : packageOf (before ++ source.importAll paths :: after) = _ :=
    packageOf_importAll source paths
  refine all.replace (congrArg _ same) (same ▸ .refl _) (same ▸ ?_)
  exact (all.each source (List.mem_append_right _ List.mem_cons_self)).importAll paths

end AllQualified

/-! ## Qualified names -/

section

variable (package : String) (start : Nat)

/-- A source with the name at an offset qualified. -/
def qualifiedAt (source : Source) : Source :=
  { source with file := source.file.mapIdents (qualifyAt package start) }

variable {start} {target : Ident} {env : Env}
  (all : AllQualified (before ++ source :: after))
  (missing : Missing (packageOf (before ++ source :: after)) source target env start)

include all

theorem AllQualified.wellPlaced : source.WellPlaced :=
  (all.each source (List.mem_append_right _ List.mem_cons_self)).wellPlaced

include missing

theorem scope_qualifiedAt :
    FileScope.ofFile (source.qualifiedAt package start).file = FileScope.ofFile source.file := by
  have same : (source.qualifiedAt package start).file.imports = source.file.imports :=
    File.imports_rebuild (missing.keeps_imports all.wellPlaced package)
  rw [FileScope.ofFile, FileScope.ofFile, same]

theorem keeps_qualifiedAt : ∀ decl ∈ source.file.decls, ∀ ident ∈ decl.binds,
    qualifyAt package start ident = ident :=
  missing.keeps_binds all.wellPlaced all.plain (Origin.declNames_subset
    (List.mem_append_right _ List.mem_cons_self)) package

/-- Qualifying the reported name keeps the names that the package declares. -/
theorem names_qualifiedAt :
    (packageOf (before ++ source.qualifiedAt package start :: after)).names =
      (packageOf (before ++ source :: after)).names :=
  names_packageOf_replace (PackageScope.declNamesAll_rebuild TypeSpec.Renames.none _
    (keeps_qualifiedAt package all missing))

/-- Qualifying the reported name changes no place that declares a name and no shape. -/
theorem spared_qualifiedAt : ∀ visit ∈ source.file.visits (packageOf (before ++ source :: after)),
    visit.Spared (packageOf (before ++ source :: after))
      (packageOf (before ++ source.qualifiedAt package start :: after))
      (qualifyAt package start) := by
  have undeclared := PackageScope.declaredType?_eq_none (missing.name_not_mem all.plain)
  refine missing.spared all.wellPlaced package undeclared fun name dotted => ?_
  refine PackageScope.declaredType?_eq_none fun isName => all.plain name ?_ dotted
  rwa [← names_qualifiedAt package all missing]

/-- Every type name of the package stands for a type alike. -/
theorem alike_qualifiedAt : PackageScope.Alike (packageOf (before ++ source :: after))
    (packageOf (before ++ source.qualifiedAt package start :: after)) :=
  alike_packageOf_replace (PackageScope.declTypesAll_rebuild TypeSpec.Renames.none
    (by rintro _ _ ⟨⟩) _ (keeps_qualifiedAt package all missing)
    (spared_qualifiedAt package all missing))

/-- Names stay qualified if the reported one is qualified by a package that the file imports. -/
theorem AllQualified.qualifiedAt (declared : (FileScope.ofFile source.file).contains package) :
    AllQualified (before ++ source.qualifiedAt package start :: after) := by
  have qualified := all.each source (List.mem_append_right _ List.mem_cons_self)
  have sameScope : FileScope.ofFile (source.qualifiedAt package start).file = _ :=
    scope_qualifiedAt package all missing
  have packages := alike_qualifiedAt package all missing
  refine all.replace (names_qualifiedAt package all missing) packages ⟨?_, ?_, ?_, ?_⟩
  · exact qualified.wellPlaced.mapIdents (qualifyAt_offset package start)
  · rw [sameScope]
    exact qualified.undotted
  · rw [sameScope]
    intro decl member
    obtain ⟨old, inDecls, rfl⟩ := List.mem_map.1 member
    refine (qualified.names old inDecls).imp (·.rebuild _) fun names ident inDecl => ?_
    rw [Decl.idents_rebuild] at inDecl
    obtain ⟨oldIdent, inOld, rfl⟩ := List.mem_map.1 inDecl
    by_cases place : oldIdent.offset = some start
    · rw [qualifyAt_of_eq place, Ident.headName_qualify (qualified.undotted package declared)]
      exact .inr declared
    · rw [qualifyAt_of_ne place]
      exact names oldIdent inOld
  · intro ident met
    have visits : (source.qualifiedAt package start).file.visits _ = _ :=
      File.visits_mapIdents _ _ packages (spared_qualifiedAt package all missing)
    rw [visits] at met
    obtain ⟨visit, oldMet, renamed⟩ := List.mem_map.1 met
    cases visit with
    | use => cases renamed
    | binder oldIdent =>
        have kept : qualifyAt package start oldIdent = oldIdent :=
          spared_qualifiedAt package all missing _ oldMet
        rw [Visit.rename, kept] at renamed
        cases renamed
        exact qualified.binders _ oldMet

end

/-- However sources were repaired, their names are qualified by imports. -/
theorem Repaired.allQualified (repaired : Repaired sources) : AllQualified sources := by
  induction repaired with
  | read read => exact .ofRead read
  | imported paths _ all => exact all.importAll paths
  | @qualified before after source next diagnostic package name paths _ _ about isQualified
      declared all =>
      rw [undefined?_eq] at about
      obtain ⟨visit, met, isReport⟩ := List.exists_of_findSome?_eq_some about
      obtain ⟨target, env, start, rfl, missing, marked, same⟩ :=
        Missing.of_report? all.wellPlaced met isReport
      have position : diagnostic.position =
          (source.importAll paths).index.lines.position start := by
        rw [index_importAll, same]
        rfl
      have imported := all.importAll paths
      have stillMissing : Missing (packageOf (before ++ source.importAll paths :: after))
          (source.importAll paths) target env start := by
        rw [packageOf_importAll]
        refine ⟨?_, missing.place, missing.notBlank, missing.unknown⟩
        rw [visits_importAll]
        exact missing.met
      have found : (source.importAll paths).qualify _ package = _ :=
        imported.wellPlaced.qualify_position stillMissing.mem_idents missing.place
          (by rwa [index_importAll])
      cases found.symm.trans (position ▸ isQualified)
      have sameScope := scope_qualifiedAt package imported stillMissing
      exact imported.qualifiedAt package stillMissing (sameScope ▸ declared)

/-! ## Reports on names that are spelled out -/

section

variable (qualified : source.Qualified scope)
  (undeclared : ∀ name, '.' ∈ name.toList → scope.declaredType? name = none)

include qualified undeclared

/-- A qualified name is no type name, and nothing is reported about it or its package. -/
theorem Qualified.settled : ∀ decl ∈ source.file.decls,
    decl.IsImport ∨ ∀ ident ∈ decl.idents, ident.Settled (source.report? scope) scope := by
  intro decl member
  refine (qualified.names decl member).imp_right fun names ident inDecl => ?_
  by_cases plain : ident.IsPlain
  · exact .inl plain
  have declared := (names ident inDecl).resolve_left plain
  have silent : ∀ other : Ident, other.headName = ident.headName → ∀ env,
      source.report? scope (.use other env) = none := by
    intro other same env
    rw [report?_use, same]
    simp [FileNames.contains, declared]
  refine .inr ⟨undeclared ident.name (not_not.1 plain), fun env => ⟨silent ident rfl env, ?_⟩⟩
  exact silent _ (ident.headName_headName _) env

/-- Of a source with its names spelled out the same is reported. -/
theorem Qualified.undefined?_spelledOut (names : new.names = scope.names)
    (packages : PackageScope.Alike scope new) :
    source.spelledOut.undefined? new = source.undefined? scope := by
  have imports : FileScope.ofFile source.spelledOut.file = FileScope.ofFile source.file := by
    have same : source.spelledOut.file.imports = source.file.imports :=
      source.file.imports_spelledOut
    rw [FileScope.ofFile, FileScope.ofFile, same]
  have reports : source.spelledOut.report? new = source.report? scope := by
    funext visit
    cases visit with
    | binder => simp [report?, Visit.unresolved?]
    | use ident env =>
      have known : FileNames.contains ⟨new, .ofFile source.file⟩ ident.headName =
          FileNames.contains ⟨scope, .ofFile source.file⟩ ident.headName := by
        simp only [FileNames.contains, PackageScope.contains, names]
      simp only [report?, Visit.unresolved?, imports, known]
      rfl
  rw [undefined?_eq, undefined?_eq, reports]
  exact source.file.findSome?_visits_spelledOut packages (qualified.settled undeclared)
    qualified.binders

end

namespace AllQualified

variable (all : AllQualified sources)

include all

theorem undeclared (name : String) (dotted : '.' ∈ name.toList) :
    (packageOf sources).declaredType? name = none :=
  PackageScope.declaredType?_eq_none fun declared => all.plain name declared dotted

omit all in
theorem names_spelledOut :
    (packageOf (sources.map spelledOut)).names = (packageOf sources).names := by
  rw [names_packageOf, names_packageOf, List.flatMap_map]
  refine List.flatMap_congr fun source _ => ?_
  change (source.file.decls.map (·.spelledOut)).flatMap PackageScope.declNames = _
  rw [List.flatMap_map]
  exact List.flatMap_congr fun decl _ => PackageScope.declNames_spelledOut decl

theorem alike_spelledOut :
    PackageScope.Alike (packageOf sources) (packageOf (sources.map spelledOut)) := by
  apply PackageScope.alike_of_types
  rw [types_packageOf, types_packageOf, List.flatMap_map]
  refine PackageScope.forall₂_flatMap fun source member => ?_
  change List.Forall₂ _ _ ((source.file.decls.map (·.spelledOut)).flatMap PackageScope.declTypes)
  rw [List.flatMap_map]
  exact PackageScope.forall₂_flatMap fun decl inDecls =>
    PackageScope.declTypes_spelledOut decl
      ((all.each source member).settled all.undeclared decl inDecls)

end AllQualified

/-- The check of sources that were repaired reports what it would report if every qualified name
were spelled out as the selection of a member of its package. -/
theorem firstUndefined?_spelledOut (repaired : Repaired sources) :
    firstUndefined? (sources.map spelledOut) = firstUndefined? sources := by
  have all := repaired.allQualified
  change ((sources.map spelledOut).mergeSort notAfter).findSome?
      (undefined? (packageOf (sources.map spelledOut))) =
    (sources.mergeSort notAfter).findSome? (undefined? (packageOf sources))
  have sorted : (sources.mergeSort notAfter).map spelledOut =
      (sources.map spelledOut).mergeSort notAfter :=
    List.map_mergeSort fun _ _ _ _ => rfl
  rw [← sorted, List.findSome?_map]
  have each : ∀ source ∈ sources.mergeSort notAfter,
      source.spelledOut.undefined? (packageOf (sources.map spelledOut)) =
        source.undefined? (packageOf sources) := fun source member =>
    (all.each source (List.mem_mergeSort.1 member)).undefined?_spelledOut all.undeclared
      AllQualified.names_spelledOut all.alike_spelledOut
  generalize sources.mergeSort notAfter = ordered at each
  induction ordered with
  | nil => rfl
  | cons source rest ih =>
      obtain ⟨first, others⟩ := List.forall_mem_cons.1 each
      rw [List.findSome?_cons, List.findSome?_cons, Function.comp_apply, first, ih others]

/-- The literal of an undefined type is mended.  Its key is none of a struct, whether its type is
a name in memory or a selection, and its value is reported next. -/
theorem firstUndefined?_spelledOut_literal :
    ∃ source mended : Source,
      (Origin.mk "q" "lib/q").mend? ⟨2, 9⟩ source = some mended ∧
      "q.T" ∈ mended.file.idents.map (·.name) ∧
      "q.T" ∉ mended.spelledOut.file.idents.map (·.name) ∧
      firstUndefined? [mended] = some (.undefined ⟨"a.go"⟩ ⟨2, 14⟩ "y") ∧
      firstUndefined? [mended.spelledOut] = some (.undefined ⟨"a.go"⟩ ⟨2, 14⟩ "y") := by
  have checked : (Source.parse ⟨"a.go"⟩ "package p\nvar x = T{k: y}").toOption.bind
      (fun source => ((Origin.mk "q" "lib/q").mend? ⟨2, 9⟩ source).map fun mended =>
        (source.undefined? (packageOf [source]),
          (FileScope.ofFile mended.file).contains "q", mended.file.idents.map (·.name),
          mended.spelledOut.file.idents.map (·.name),
          mended.undefined? (packageOf [mended]))) =
      some (some (.undefined ⟨"a.go"⟩ ⟨2, 9⟩ "T"), true,
        ["p", "x", "q.T", "k", "y"], ["p", "x", "q", "T", "k", "y"],
        some (.undefined ⟨"a.go"⟩ ⟨2, 14⟩ "y")) := by
    decide +kernel
  cases parsed : Source.parse ⟨"a.go"⟩ "package p\nvar x = T{k: y}" with
  | error fault => simp [parsed, Except.toOption] at checked
  | ok source =>
      rw [parsed] at checked
      obtain ⟨mended, isMended, checked⟩ := Option.map_eq_some_iff.1 checked
      simp only [Prod.mk.injEq] at checked
      obtain ⟨reported, declared, dotted, spelled, next⟩ := checked
      have path : source.path = ⟨"a.go"⟩ := (parse_eq_ok.1 parsed).2.1
      have read : Repaired ([] ++ source :: []) := .read (by simpa using ⟨_, path ▸ parsed⟩)
      have repaired : Repaired ([] ++ mended :: []) :=
        read.mend ((firstUndefined?_singleton source).trans reported) reported isMended declared
      rw [← firstUndefined?_singleton] at next
      refine ⟨source, mended, isMended, by simp [dotted], by simp [spelled], next, ?_⟩
      exact (firstUndefined?_spelledOut repaired).trans next

end Source

end GoMend
