import Mathlib.Data.List.Forall2
import GoMend.Proofs.Names.Document
import GoMend.Proofs.Scope.Renaming

/-!
# Packages under a change of names

A change that spares the places where a package declares its names leaves these as they are,
and every type name stands for a type alike.
-/

namespace GoMend

namespace Decl

/-- The places where a top-level declaration declares names of the package. -/
def binds : Decl → List Ident
  | .gen decl => decl.specs.flatMap Spec.binds
  | .func decl => if decl.receiver.isNone then [decl.name] else []

end Decl

theorem Spec.mem_idents_of_mem_binds {spec : Spec} {ident : Ident} (member : ident ∈ spec.binds) :
    ident ∈ spec.idents := by
  cases spec with
  | imported spec => cases member
  | value spec =>
      obtain ⟨_, names, declared, _, _⟩ := spec
      have named : ident ∈ names := member
      cases declared <;> simp [Spec.collect, ValueSpec.collect, named]
  | type spec =>
      obtain ⟨_, name, _, _, _⟩ := spec
      exact List.mem_append_left _ member

theorem Decl.mem_idents_of_mem_binds {decl : Decl} {ident : Ident}
    (member : ident ∈ decl.binds) : ident ∈ decl.idents := by
  cases decl with
  | gen decl =>
      obtain ⟨_, _, _, specs, _⟩ := decl
      obtain ⟨spec, inSpecs, inSpec⟩ := List.mem_flatMap.1 member
      exact Spec.mem_identsAll.2 ⟨spec, inSpecs, spec.mem_idents_of_mem_binds inSpec⟩
  | func decl =>
      obtain ⟨_, receiver, name, _, _⟩ := decl
      cases receiver with
      | none => exact List.mem_append_left _ (List.mem_append_left _ member)
      | some receiver => cases member

/-- A change of names reaches the names of imports. -/
theorem File.imports_rebuild_map (change : Ident → Ident) (edit : TypeSpec → Option TypeSpec)
    (file : File) : (file.rebuild change edit).imports =
      file.imports.map fun entry => { entry with name := entry.name.map change } := by
  change (file.decls.map _).flatMap _ = _
  rw [imports, List.flatMap_map, List.map_flatMap]
  apply List.flatMap_congr
  intro decl member
  cases decl with
  | func decl => rfl
  | gen decl =>
      obtain ⟨doc, keyword, grouped, specs, offset⟩ := decl
      simp only [Decl.rebuild, GenDecl.rebuild, Spec.rebuildAll_eq_map]
      split
      · rw [List.filterMap_map, List.map_filterMap]
        apply List.filterMap_congr
        intro spec inSpecs
        cases spec with
        | imported entry => rfl
        | value => rfl
        | type => rw [Function.comp_apply, Spec.rebuild_type]; rfl
      · rfl

/-- A change that keeps the names of imports keeps the imports. -/
theorem File.imports_rebuild {change : Ident → Ident} {edit : TypeSpec → Option TypeSpec}
    {file : File} (keeps : ∀ entry ∈ file.imports, entry.name.map change = entry.name) :
    (file.rebuild change edit).imports = file.imports := by
  rw [imports_rebuild_map]
  refine (List.map_congr_left fun entry member => ?_).trans (List.map_id _)
  rw [keeps entry member]
  rfl

namespace PackageScope

variable {change : Ident → Ident} {edit : TypeSpec → Option TypeSpec} {old new : PackageScope}
  {ident : Ident}

/-- What is declared is a name of the package, or blank. -/
theorem mem_specNames_of_mem_binds {spec : Spec} (member : ident ∈ spec.binds) :
    ident.isBlank ∨ ident.name ∈ specNames spec := by
  cases spec with
  | imported spec => cases member
  | value spec =>
      cases blank : ident.isBlank with
      | true => exact .inl rfl
      | false => exact .inr (List.mem_map_of_mem (List.mem_filter.2 ⟨member, by simp [blank]⟩))
  | type spec =>
      rw [List.mem_singleton.1 member]
      exact .inr List.mem_cons_self

theorem mem_declNames_of_mem_binds {decl : Decl} (member : ident ∈ decl.binds) :
    ident.isBlank ∨ ident.name ∈ declNames decl := by
  cases decl with
  | gen decl =>
      obtain ⟨spec, inSpecs, inSpec⟩ := List.mem_flatMap.1 member
      exact (mem_specNames_of_mem_binds inSpec).imp_right fun isName =>
        List.mem_flatMap.2 ⟨spec, inSpecs, isName⟩
  | func decl =>
      rw [Decl.binds] at member
      rw [declNames]
      split at member
      · rename_i isFunction
        rw [List.mem_singleton.1 member, if_pos isFunction]
        exact .inr List.mem_cons_self
      · cases member

/-- Every name of the package is declared somewhere. -/
theorem exists_binds_of_mem_declNames {decl : Decl} {name : String}
    (member : name ∈ declNames decl) : ∃ ident ∈ decl.binds, ident.name = name := by
  cases decl with
  | gen decl =>
      obtain ⟨spec, inSpecs, inSpec⟩ := List.mem_flatMap.1 member
      obtain ⟨ident, isBind, named⟩ : ∃ ident ∈ spec.binds, ident.name = name := by
        cases spec with
        | imported spec => cases inSpec
        | value spec =>
            obtain ⟨ident, isName, named⟩ := List.mem_map.1 inSpec
            exact ⟨ident, (List.mem_filter.1 isName).1, named⟩
        | type spec => exact ⟨spec.name, List.mem_cons_self, (List.mem_singleton.1 inSpec).symm⟩
      exact ⟨ident, List.mem_flatMap.2 ⟨spec, inSpecs, isBind⟩, named⟩
  | func decl =>
      rw [declNames] at member
      rw [Decl.binds]
      split at member
      · rename_i isFunction
        rw [if_pos isFunction]
        exact ⟨decl.name, List.mem_cons_self, (List.mem_singleton.1 member).symm⟩
      · cases member

/-- An import declares no name of the package. -/
theorem binds_eq_nil {decl : Decl} (isImport : decl.IsImport) : decl.binds = [] := by
  cases decl with
  | func decl => exact isImport.elim
  | gen decl =>
      refine List.flatMap_eq_nil_iff.2 fun spec inSpecs => ?_
      have imported := isImport.2 spec inSpecs
      cases spec with
      | imported spec => rfl
      | value | type => exact imported.elim

/-- A type name is a name of its package. -/
theorem mem_names_of_mem_types {files : List File} {entry : String × Expr}
    (member : entry ∈ (ofFiles files).types) : entry.1 ∈ (ofFiles files).names := by
  obtain ⟨file, inFiles, inFile⟩ := List.mem_flatMap.1 member
  obtain ⟨decl, inDecls, inDecl⟩ := List.mem_flatMap.1 inFile
  refine List.mem_flatMap.2 ⟨file, inFiles, List.mem_flatMap.2 ⟨decl, inDecls, ?_⟩⟩
  cases decl with
  | func decl => cases inDecl
  | gen decl =>
      obtain ⟨spec, inSpecs, inSpec⟩ := List.mem_flatMap.1 inDecl
      refine List.mem_flatMap.2 ⟨spec, inSpecs, ?_⟩
      cases spec with
      | imported | value => cases inSpec
      | type spec =>
          rw [List.mem_singleton.1 inSpec]
          exact List.mem_cons_self

/-- What is no name of the package stands for no type. -/
theorem declaredType?_eq_none {files : List File} {name : String}
    (undeclared : name ∉ (ofFiles files).names) : (ofFiles files).declaredType? name = none := by
  rw [declaredType?, Option.map_eq_none_iff, List.find?_eq_none]
  intro entry member named
  rw [← beq_iff_eq.1 named] at undeclared
  exact undeclared (mem_names_of_mem_types (List.mem_reverse.1 member))

/-! ## Names under a change -/

theorem specNames_rebuild (renames : TypeSpec.Renames change edit) (spec : Spec)
    (keeps : ∀ ident ∈ spec.binds, change ident = ident) :
    specNames (spec.rebuild change edit) = specNames spec := by
  cases spec with
  | imported spec => rfl
  | value spec =>
      obtain ⟨_, names, declared, _, _⟩ := spec
      have kept : names.map change = names := (List.map_congr_left keeps).trans (List.map_id names)
      change ((names.map change).filter _).map _ = _
      rw [kept]
      rfl
  | type spec =>
      have kept : change spec.name = spec.name := keeps spec.name List.mem_cons_self
      rw [Spec.rebuild_type, specNames, specNames, renames.name_edited, kept]

theorem specNamesAll_rebuild (renames : TypeSpec.Renames change edit) (specs : List Spec)
    (keeps : ∀ ident ∈ specs.flatMap Spec.binds, change ident = ident) :
    (Spec.rebuildAll change edit specs).flatMap specNames = specs.flatMap specNames := by
  induction specs with
  | nil => rfl
  | cons spec rest ih =>
      obtain ⟨first, others⟩ := List.forall_mem_append.1 keeps
      rw [Spec.rebuildAll, List.flatMap_cons, List.flatMap_cons,
        specNames_rebuild renames spec first, ih others]

theorem declNames_rebuild (renames : TypeSpec.Renames change edit) (decl : Decl)
    (keeps : ∀ ident ∈ decl.binds, change ident = ident) :
    declNames (decl.rebuild change edit) = declNames decl := by
  cases decl with
  | gen decl =>
      obtain ⟨_, _, _, specs, _⟩ := decl
      exact specNamesAll_rebuild renames specs keeps
  | func decl =>
      obtain ⟨_, receiver, name, _, _⟩ := decl
      cases receiver with
      | none =>
          have kept : change name = name := keeps name List.mem_cons_self
          change [(change name).name] = _
          rw [kept]
          rfl
      | some receiver => rfl

/-- The names of a file stay as they are. -/
theorem declNamesAll_rebuild (renames : TypeSpec.Renames change edit) (file : File)
    (keeps : ∀ decl ∈ file.decls, ∀ ident ∈ decl.binds, change ident = ident) :
    (file.rebuild change edit).decls.flatMap declNames = file.decls.flatMap declNames := by
  change (file.decls.map _).flatMap declNames = _
  rw [List.flatMap_map]
  exact List.flatMap_congr fun decl member => declNames_rebuild renames decl (keeps decl member)

/-! ## Types under a change -/

/-- The same type name for alike types. -/
def SameType (old new : PackageScope) (one other : String × Expr) : Prop :=
  one.1 = other.1 ∧ Expr.Alike old new one.2 other.2

/-- Lists that agree part by part agree as wholes. -/
theorem forall₂_flatMap {α β γ : Type} {agree : β → γ → Prop} {left : α → List β}
    {right : α → List γ} : ∀ {parts : List α},
      (∀ part ∈ parts, List.Forall₂ agree (left part) (right part)) →
        List.Forall₂ agree (parts.flatMap left) (parts.flatMap right)
  | [], _ => .nil
  | part :: rest, agrees => by
      obtain ⟨first, others⟩ := List.forall_mem_cons.1 agrees
      rw [List.flatMap_cons, List.flatMap_cons]
      exact List.rel_append first (forall₂_flatMap others)

theorem specTypes_rebuild (renames : TypeSpec.Renames change edit)
    (alike : ∀ ⦃spec edited⦄, edit spec = some edited → Expr.Alike old new spec.type edited.type)
    (specs : List Spec) (keeps : ∀ ident ∈ specs.flatMap Spec.binds, change ident = ident)
    (spared : ∀ visit ∈ Spec.visitsAll old false [] specs, visit.Spared old new change) :
    List.Forall₂ (SameType old new) (specs.flatMap specTypes)
      ((Spec.rebuildAll change edit specs).flatMap specTypes) := by
  induction specs with
  | nil => exact .nil
  | cons spec rest ih =>
      obtain ⟨keepsFirst, keepsRest⟩ := List.forall_mem_append.1 keeps
      cases spec with
      | imported spec => exact ih keepsRest spared
      | value spec =>
          obtain ⟨_, _, declared, _, _⟩ := spec
          cases declared <;> exact ih keepsRest (List.forall_mem_append.1 spared).2
      | type spec =>
          rw [Spec.visitsAll_type] at spared
          obtain ⟨sparedType, sparedRest⟩ := List.forall_mem_append.1 spared
          have kept : change spec.name = spec.name := keepsFirst spec.name List.mem_cons_self
          have sameType : Expr.Alike old new spec.type
              ((edit spec).getD (spec.rebuild change edit)).type := by
            cases isEdited : edit spec with
            | some edited => exact alike isEdited
            | none =>
                obtain ⟨_, _, _, declared, _⟩ := spec
                exact Expr.alike_rebuild change [] declared sparedType
          rw [Spec.rebuildAll, Spec.rebuild_type]
          refine .cons ⟨?_, sameType⟩ (ih keepsRest sparedRest)
          rw [renames.name_edited, kept]

theorem declTypes_rebuild (renames : TypeSpec.Renames change edit)
    (alike : ∀ ⦃spec edited⦄, edit spec = some edited → Expr.Alike old new spec.type edited.type)
    (decl : Decl) (keeps : ∀ ident ∈ decl.binds, change ident = ident)
    (spared : ∀ visit ∈ decl.visits old, visit.Spared old new change) :
    List.Forall₂ (SameType old new) (declTypes decl)
      (declTypes (decl.rebuild change edit)) := by
  cases decl with
  | func decl => exact .nil
  | gen decl =>
      obtain ⟨_, _, _, specs, _⟩ := decl
      exact specTypes_rebuild renames alike specs keeps spared

/-- Every type name of a file stands for a type alike. -/
theorem declTypesAll_rebuild (renames : TypeSpec.Renames change edit)
    (alike : ∀ ⦃spec edited⦄, edit spec = some edited → Expr.Alike old new spec.type edited.type)
    (file : File) (keeps : ∀ decl ∈ file.decls, ∀ ident ∈ decl.binds, change ident = ident)
    (spared : ∀ visit ∈ file.visits old, visit.Spared old new change) :
    List.Forall₂ (SameType old new) (file.decls.flatMap declTypes)
      ((file.rebuild change edit).decls.flatMap declTypes) := by
  change List.Forall₂ _ _ ((file.decls.map _).flatMap declTypes)
  rw [List.flatMap_map]
  exact forall₂_flatMap fun decl member =>
    declTypes_rebuild renames alike decl (keeps decl member)
      fun visit met => spared visit (List.mem_flatMap.2 ⟨decl, member, met⟩)

theorem declTypes_same (file : File) :
    List.Forall₂ (SameType old new) (file.decls.flatMap declTypes)
      (file.decls.flatMap declTypes) :=
  List.forall₂_same.2 fun entry _ => ⟨rfl, .same entry.2⟩

/-- Packages with the same type names for alike types are alike. -/
theorem alike_of_types (types : List.Forall₂ (SameType old new) old.types new.types) :
    PackageScope.Alike old new := by
  intro name
  have lookup : ∀ {left right : List (String × Expr)},
      List.Forall₂ (SameType old new) left right →
        Option.Rel (Expr.Alike old new) ((left.find? (·.1 == name)).map (·.2))
          ((right.find? (·.1 == name)).map (·.2)) := by
    intro left right agree
    induction agree with
    | nil => exact .none
    | @cons one other _ _ same _ ih =>
        rw [List.find?_cons, List.find?_cons, ← same.1]
        cases one.1 == name with
        | true => exact .some same.2
        | false => exact ih
  exact lookup (List.forall₂_reverse_iff.2 types)

end PackageScope

end GoMend
