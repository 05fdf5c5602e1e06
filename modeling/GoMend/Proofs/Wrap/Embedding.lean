import GoMend.Proofs.Repair.Replacement
import GoMend.Wrap.Pipeline

/-!
# Wrapping a struct

A struct that is wrapped keeps its name.  Of its fields it loses some, and it gains at most the
wrapper.  So the file declares what it declared before, and all that resolution meets anew are
uses of the names of wrappers.
-/

namespace GoMend

/-! ## Changes of fields -/

/-- A type after a change of fields: every field of the struct has the type of an old field, or
a type that may be added. -/
inductive Expr.Refielded (added : Expr → Prop) : Expr → Expr → Prop where
  | same (type : Expr) : Refielded added type type
  | fields {list list' : FieldList} :
      (∀ field ∈ list'.fields, added field.type ∨ ∃ old ∈ list.fields, old.type = field.type) →
      Refielded added (.structType list) (.structType list')

/-- A type entry after a change of fields. -/
structure TypeSpec.Refielded (added : Expr → Prop) (spec edited : TypeSpec) : Prop where
  name : edited.name = spec.name
  type : Expr.Refielded added spec.type edited.type

section

variable {added : Expr → Prop}

namespace Expr.Refielded

variable {first second third : Expr}

theorem trans (one : Refielded added first second) (other : Refielded added second third) :
    Refielded added first third := by
  cases one with
  | same => exact other
  | fields old =>
      cases other with
      | same => exact .fields old
      | fields new =>
          apply Refielded.fields
          intro field member
          rcases new field member with isAdded | ⟨middle, inMiddle, same⟩
          · exact .inl isAdded
          · exact same ▸ old middle inMiddle

/-- A type that a change of fields applies to stays alike. -/
theorem alike {old new : PackageScope} (refielded : Refielded added first second) :
    Expr.Alike old new first second := by
  cases refielded with
  | same => exact .same first
  | fields => exact .structType

/-- A visit in the changed type was met in the old one, or belongs to what was added. -/
theorem mem_visits {scope : PackageScope} {env : Env} {visit : Visit}
    (refielded : Refielded added first second) (met : visit ∈ second.visits scope none env) :
    visit ∈ first.visits scope none env ∨
      ∃ type, added type ∧ visit ∈ type.visits scope none env := by
  cases refielded with
  | same => exact .inl met
  | @fields list list' each =>
      obtain ⟨fields, _⟩ := list
      obtain ⟨fields', _⟩ := list'
      change visit ∈ Field.visitsAll scope env fields' at met
      rw [Field.visitsAll_eq_flatMap] at met
      obtain ⟨field, member, inField⟩ := List.mem_flatMap.1 met
      rcases each field member with isAdded | ⟨old, inOld, same⟩
      · exact .inr ⟨field.type, isAdded, inField⟩
      · left
        change visit ∈ Field.visitsAll scope env fields
        rw [Field.visitsAll_eq_flatMap]
        exact List.mem_flatMap.2 ⟨old, inOld, same ▸ inField⟩

end Expr.Refielded

namespace TypeSpec

variable {first second third : TypeSpec}

theorem Refielded.refl (spec : TypeSpec) : Refielded added spec spec :=
  ⟨rfl, .same spec.type⟩

theorem Refielded.trans (one : Refielded added first second)
    (other : Refielded added second third) : Refielded added first third :=
  ⟨other.name.trans one.name, one.type.trans other.type⟩

theorem refielded_mapFields {change : List Field → List Field} (spec : TypeSpec)
    (each : ∀ fields, ∀ field ∈ change fields,
      added field.type ∨ ∃ old ∈ fields, old.type = field.type) :
    Refielded added spec (spec.mapFields change) := by
  rw [mapFields]
  split
  · rename_i list isStruct
    constructor
    · rfl
    · rw [isStruct]
      exact .fields (each list.fields)
  · exact .refl spec

/-- A field line that loses a name keeps its type. -/
theorem type_of_mem_dropName {name : String} {fields : List Field} {field : Field}
    (member : field ∈ dropName name fields) : ∃ old ∈ fields, old.type = field.type := by
  induction fields with
  | nil => cases member
  | cons first rest ih =>
      have inRest : field ∈ rest → ∃ old ∈ first :: rest, old.type = field.type :=
        fun member => ⟨field, List.mem_cons_of_mem _ member, rfl⟩
      rw [dropName] at member
      split at member
      · split at member
        · rcases List.mem_cons.1 member with rfl | kept
          · exact ⟨first, List.mem_cons_self, rfl⟩
          · exact inRest kept
        · exact inRest member
      · rcases List.mem_cons.1 member with rfl | dropped
        · exact ⟨field, List.mem_cons_self, rfl⟩
        · obtain ⟨old, inOld, same⟩ := ih dropped
          exact ⟨old, List.mem_cons_of_mem _ inOld, same⟩

theorem refielded_removeEmbedded (name : String) (spec : TypeSpec) :
    Refielded added spec (spec.removeEmbedded name) := by
  apply refielded_mapFields
  intro fields field member
  exact .inr ⟨field, (List.mem_filter.1 member).1, rfl⟩

theorem refielded_removeField {name : String} {spec edited : TypeSpec}
    (removed : spec.removeField name = .ok edited) : Refielded added spec edited := by
  rw [removeField] at removed
  split at removed
  · cases removed
    apply refielded_mapFields
    intro fields field member
    exact .inr (type_of_mem_dropName member)
  · cases removed

theorem refielded_addField {field : Field} (isAdded : added field.type) (spec : TypeSpec) :
    Refielded added spec (spec.addField field) := by
  apply refielded_mapFields
  intro fields other member
  rcases List.mem_append.1 member with kept | isNew
  · exact .inr ⟨other, kept, rfl⟩
  · rw [List.mem_singleton.1 isNew]
    exact .inl isAdded

end TypeSpec

end

/-! ## Embedding a wrapper -/

namespace Wrapper

/-- The type of a field that embeds a wrapper. -/
def Embeds (type : Expr) : Prop :=
  ∃ wrapper : Wrapper, type = .star (.ofName wrapper.name)

/-- The use of the name of a wrapper. -/
def Names (visit : Visit) : Prop :=
  ∃ (wrapper : Wrapper) (env : Env), visit = .use (.ofName wrapper.name) env

/-- All that is visited after a change was visited before it, or names a wrapper. -/
def Adds (before after : List Visit) : Prop :=
  ∀ visit ∈ after, visit ∈ before ∨ Names visit

theorem adds_agreement : Visit.Agreement Adds where
  refl := fun _ _ member => .inl member
  append := by
    intro before after later after' first second visit member
    rcases List.mem_append.1 member with inFirst | inSecond
    · exact (first visit inFirst).imp_left (List.mem_append_left _)
    · exact (second visit inSecond).imp_left (List.mem_append_right _)

theorem names_of_embeds {scope : PackageScope} {env : Env} {type : Expr} {visit : Visit}
    (embeds : Embeds type) (met : visit ∈ type.visits scope none env) : Names visit := by
  obtain ⟨wrapper, rfl⟩ := embeds
  refine ⟨wrapper, env, ?_⟩
  cases wrapper with
  | injectable => exact List.mem_singleton.1 met
  | notInjectable => exact List.mem_singleton.1 met

variable (wrapper : Wrapper)

theorem refielded_embed (spec : TypeSpec) :
    TypeSpec.Refielded Embeds spec (wrapper.embed spec) := by
  rw [embed]
  split
  · exact .refl spec
  · exact TypeSpec.refielded_addField ⟨wrapper, rfl⟩ spec

/-- What wrapping does to a struct. -/
theorem refielded_enrich {spec enriched : TypeSpec}
    (wrapped : wrapper.enrich spec = .ok enriched) :
    TypeSpec.Refielded Embeds spec enriched := by
  cases wrapper with
  | notInjectable =>
      cases wrapped
      exact notInjectable.refielded_embed spec
  | injectable =>
      have embedded := (TypeSpec.refielded_removeEmbedded notInjectable.name spec).trans
        (injectable.refielded_embed (spec.removeEmbedded notInjectable.name))
      simp only [enrich] at wrapped
      split at wrapped
      · exact embedded.trans (TypeSpec.refielded_removeField wrapped)
      · cases wrapped
        exact embedded

end Wrapper

/-! ## The file of a wrapped struct -/

namespace File

variable {edit : TypeSpec → TypeSpec}
  (refielded : ∀ spec, TypeSpec.Refielded Wrapper.Embeds spec (edit spec)) (offset : Option Nat)
  (file : File)

include refielded

/-- An entry that is edited is one that a change of fields applies to. -/
theorem refielded_of_edited {spec edited : TypeSpec}
    (isEdited : (if spec.name.offset = offset then some (edit spec) else none) = some edited) :
    TypeSpec.Refielded Wrapper.Embeds spec edited := by
  split at isEdited
  · cases isEdited
    exact refielded spec
  · cases isEdited

theorem renames_edit :
    TypeSpec.Renames id fun spec => if spec.name.offset = offset then some (edit spec) else none :=
  fun _ _ isEdited => (refielded_of_edited refielded offset isEdited).name

theorem alike_edit {old new : PackageScope} ⦃spec edited : TypeSpec⦄
    (isEdited : (if spec.name.offset = offset then some (edit spec) else none) = some edited) :
    Expr.Alike old new spec.type edited.type :=
  (refielded_of_edited refielded offset isEdited).type.alike

/-- Changed fields change nothing about what a file declares. -/
theorem keeps_editTypeAt : file.Keeps (file.editTypeAt offset edit) where
  imports := by
    apply File.imports_rebuild
    intro entry _
    exact Option.map_id_apply
  names := by
    apply PackageScope.declNamesAll_rebuild (renames_edit refielded offset)
    intro decl _ ident _
    rfl
  types := by
    intro old new
    apply PackageScope.declTypesAll_rebuild (renames_edit refielded offset)
      (alike_edit refielded offset)
    · intro decl _ ident _
      rfl
    · intro visit _
      exact visit.spared_id

/-- The edited entry keeps its name, and all it adds are names of wrappers. -/
theorem faithful_edit (scope : PackageScope) :
    TypeSpec.Faithful Wrapper.Adds scope scope id
      fun spec => if spec.name.offset = offset then some (edit spec) else none where
  renames := renames_edit refielded offset
  alike := alike_edit refielded offset
  visits := by
    intro spec edited isEdited env _ _ _ visit member
    rw [Visit.rename_id, List.map_id]
    rcases (refielded_of_edited refielded offset isEdited).type.mem_visits member with
      old | ⟨type, embeds, inType⟩
    · exact .inl old
    · exact .inr (Wrapper.names_of_embeds embeds inType)

/-- What resolution meets anew where fields are changed. -/
theorem mem_visits_editTypeAt {scope : PackageScope} {visit : Visit}
    (met : visit ∈ (file.editTypeAt offset edit).visits scope) :
    visit ∈ file.visits scope ∨ Wrapper.Names visit := by
  have faithful := faithful_edit refielded offset scope
  have within := File.visits_rebuild id faithful file Wrapper.adds_agreement (.refl scope)
    (fun visit _ => visit.spared_id) visit met
  rwa [Visit.rename_id, List.map_id] at within

end File

namespace Pipeline

variable (pipeline : Pipeline) (source : Source)

/-- Wrapping changes nothing but the fields of structs. -/
theorem wrapStructure_cases :
    (pipeline.wrapStructure source).2 = source ∨
      ∃ offset edit, (∀ spec, TypeSpec.Refielded Wrapper.Embeds spec (edit spec)) ∧
        (pipeline.wrapStructure source).2 =
          { source with file := source.file.editTypeAt offset edit } := by
  rw [wrapStructure, Source.editStructure?, File.editStructure?]
  cases found : source.file.structure? pipeline.structures with
  | none => exact .inl rfl
  | some spec =>
      refine .inr ⟨spec.name.offset, _, ?_, rfl⟩
      intro other
      cases wrapped : (Wrapper.select other).enrich other with
      | ok enriched =>
          simp only [wrapped]
          exact (Wrapper.select other).refielded_enrich wrapped
      | error fault =>
          simp only [wrapped]
          exact .refl other

/-- A file whose struct is wrapped declares what it declared before. -/
theorem keeps_wrapStructure : source.file.Keeps (pipeline.wrapStructure source).2.file := by
  rcases pipeline.wrapStructure_cases source with same | ⟨offset, edit, refielded, same⟩
  · rw [same]
    exact .refl source.file
  · rw [same]
    exact File.keeps_editTypeAt refielded offset source.file

/-- All that resolution meets anew in a file whose struct is wrapped are names of wrappers. -/
theorem mem_visits_wrapStructure {scope : PackageScope} {visit : Visit}
    (met : visit ∈ (pipeline.wrapStructure source).2.file.visits scope) :
    visit ∈ source.file.visits scope ∨ Wrapper.Names visit := by
  rcases pipeline.wrapStructure_cases source with same | ⟨offset, edit, refielded, same⟩
  · rw [same] at met
    exact .inl met
  · rw [same] at met
    exact File.mem_visits_editTypeAt refielded offset source.file met

end Pipeline

end GoMend
