import GoMend.Proofs.Unit.Positions
import GoMend.Proofs.Wrap.Framing

/-!
# Positions under edits

A unit is read once and then edited in any order: its package is renamed, imports are added, names
are qualified, structs and functions are changed, and it is moved into the package.  A position
keeps meaning the name that the text has there.  Names that are built stand nowhere.  An edit that
adds only such names lets no second name stand where one stands, and qualifying reaches the one name
that stems from the text, as long as it is there.
-/

namespace GoMend

open Ident (places)

/-! ## Importing and qualifying in either order -/

namespace Source

section

variable {σ : Type} {meet : Ident → StateM σ Ident}

end

end Source

/-! ## Edits -/

namespace TypeSpec

/-- An edit of a struct. -/
inductive Edit where
  | rename (name : String)
  | addField (name : String) (type : Expr)
  | addEmbedded (type : Expr)
  | removeEmbedded (name : String)
  | removeField (name : String)
  | enrich (wrapper : Wrapper)

/-- Edit a struct.  An edit that fails changes nothing. -/
def Edit.apply (spec : TypeSpec) : Edit → TypeSpec
  | .rename name => spec.rename name
  | .addField name type => spec.addField (.named name type)
  | .addEmbedded type => spec.addField (.embedded type)
  | .removeEmbedded name => spec.removeEmbedded name
  | .removeField name => (spec.removeField name).toOption.getD spec
  | .enrich wrapper => (wrapper.enrich spec).toOption.getD spec

/-- An edit of a struct that brings no place: a type that it adds was built, and no part of it
read. -/
def Edit.Placeless : Edit → Prop
  | .addField _ type | .addEmbedded type => places type.idents = []
  | .rename _ | .removeEmbedded _ | .removeField _ | .enrich _ => True

theorem Edit.Placeless.apply_thins {edit : Edit} (placeless : edit.Placeless) (spec : TypeSpec) :
    (edit.apply spec).Thins spec := by
  cases edit with
  | rename name => exact ⟨rfl, List.Sublist.refl _⟩
  | addField name type =>
      have built : places type.idents = [] := placeless
      apply thins_addField
      change places (.ofName name :: (type.idents ++ [])) = []
      rw [List.append_nil, Ident.places_cons, built]
      rfl
  | addEmbedded type =>
      have built : places type.idents = [] := placeless
      apply thins_addField
      change places (type.idents ++ []) = []
      rw [List.append_nil, built]
  | removeEmbedded name => exact thins_removeEmbedded name spec
  | removeField name =>
      rw [apply, TypeSpec.removeField]
      split
      · exact thins_dropName name spec
      · exact thins_refl spec
  | enrich wrapper =>
      rw [apply]
      cases enriched : wrapper.enrich spec with
      | ok => exact (Wrapper.enrich_keeps enriched).2.2
      | error => exact thins_refl spec

theorem foldl_apply_thins {edits : List Edit} (placeless : ∀ edit ∈ edits, edit.Placeless)
    (spec : TypeSpec) : (edits.foldl Edit.apply spec).Thins spec := by
  induction edits generalizing spec with
  | nil => exact thins_refl spec
  | cons edit rest ih =>
      obtain ⟨first, others⟩ := List.forall_mem_cons.1 placeless
      exact (first.apply_thins spec).trans (ih others _)

end TypeSpec

namespace FuncDecl

/-- An edit of a function. -/
inductive Edit where
  | rename (name : String)
  | normalize (wrapper : Wrapper)

/-- Edit a function.  An edit that fails changes nothing. -/
def Edit.apply (decl : FuncDecl) : Edit → FuncDecl
  | .rename name => decl.rename name
  | .normalize wrapper => (wrapper.normalizeConstructor decl).toOption.getD decl

theorem Edit.apply_thins (decl : FuncDecl) (edit : Edit) : (edit.apply decl).Thins decl := by
  cases edit with
  | rename name =>
      obtain ⟨_, receiver, ident, signature, body⟩ := decl
      refine ⟨?_, List.Subset.refl _⟩
      simp only [apply, FuncDecl.idents, FuncDecl.collect, Ident.places_append]
      exact List.Sublist.refl _
  | normalize wrapper =>
      rw [apply]
      cases normalized : wrapper.normalizeConstructor decl with
      | ok => exact Wrapper.normalizeConstructor_thins normalized
      | error => exact thins_refl decl

theorem Thins.trans {first second third : FuncDecl} (one : second.Thins first)
    (two : third.Thins second) : third.Thins first :=
  ⟨two.places.trans one.places, List.Subset.trans two.typeDecls one.typeDecls⟩

theorem foldl_apply_thins (edits : List Edit) (decl : FuncDecl) :
    (edits.foldl Edit.apply decl).Thins decl := by
  induction edits generalizing decl with
  | nil => exact thins_refl decl
  | cons edit rest ih => exact (edit.apply_thins decl).trans (ih _)

end FuncDecl

namespace Source

/-- An edit of a unit.  The struct or function that a pattern finds takes several edits in a
row. -/
inductive Edit where
  | renamePackage (name : String)
  | addImport (name : Option String) (path : String)
  | qualify (position : Position) (package : String)
  | struct (pattern : Matcher) (edits : List TypeSpec.Edit)
  | function (pattern : Matcher) (edits : List FuncDecl.Edit)
  | transform (pipeline : Pipeline)

/-- Edit a unit.  Where nothing is found, nothing is changed. -/
def Edit.apply (source : Source) : Edit → Source
  | .renamePackage name => source.renamePackage name
  | .addImport name path => (source.addImport name path).2
  | .qualify position package => ((source.qualify position package).map (·.2)).getD source
  | .struct pattern edits =>
      ((source.editStructure? pattern fun spec => ((), edits.foldl TypeSpec.Edit.apply spec)).map
        (·.2)).getD source
  | .function pattern edits =>
      ((source.editFunction? pattern fun decl => ((), edits.foldl FuncDecl.Edit.apply decl)).map
        (·.2)).getD source
  | .transform pipeline => (pipeline.transform source).2

/-- The unit behind several edits. -/
def edit (edits : List Edit) (source : Source) : Source :=
  edits.foldl Edit.apply source

variable {source : Source}

/-- An edit of a unit that brings no place into it. -/
def Edit.Placeless : Edit → Prop
  | .struct _ edits => ∀ edit ∈ edits, edit.Placeless
  | _ => True

/-- An edit without a place brings none into a unit. -/
theorem Edit.Placeless.apply_thins {edit : Edit} (placeless : edit.Placeless)
    (addressed : source.file.Addressed) : (edit.apply source).Thins source := by
  cases edit with
  | renamePackage name => exact renamePackage_thins addressed name
  | addImport name path => exact addImport_thins addressed name path
  | qualify position package =>
      rw [apply]
      cases qualified : source.qualify position package with
      | none => exact thins_refl addressed
      | some result => exact qualify_thins addressed qualified
  | struct pattern edits =>
      rw [apply]
      cases edited : source.editStructure? pattern _ with
      | none => exact thins_refl addressed
      | some result =>
          exact editStructure?_thins addressed (TypeSpec.foldl_apply_thins placeless) edited
  | function pattern edits =>
      rw [apply]
      cases edited : source.editFunction? pattern _ with
      | none => exact thins_refl addressed
      | some result =>
          exact editFunction?_thins addressed (FuncDecl.foldl_apply_thins edits) edited
  | transform pipeline => exact Pipeline.transform_thins addressed pipeline

section

variable {text : String} (indexed : source.index = .ofText text)

include indexed

end

end Source

end GoMend
