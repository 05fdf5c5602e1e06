import Mathlib.Data.List.Flatten
import GoMend.Proofs.Unit.Reached
import GoMend.Wrap.Wrapper

/-!
# Structs that have their wrapper

Enriching a struct leaves it with one wrapper and without the managed field, provided that it
declared the field once at most.  A struct in this form selects the wrapper that it has and is
not changed by enriching it again.
-/

namespace GoMend

/-! ## Fields of a struct -/

namespace Field

theorem names_of_embeddedName? {field : Field} {name : String}
    (embeds : field.embeddedName? = some name) : field.names = [] := by
  rw [embeddedName?] at embeds
  split at embeds
  · exact List.isEmpty_iff.1 ‹_›
  · cases embeds

theorem embeddedName?_of_names? {field : Field} {name : String}
    (named : field.names? name = true) : field.embeddedName? = none := by
  cases embeds : field.embeddedName? with
  | none => rfl
  | some other => simp [names?, names_of_embeddedName? embeds] at named

end Field

namespace TypeSpec

variable {spec : TypeSpec} {change : List Field → List Field} {name other : String}

/-- The names of fields that a struct declares, with repetitions. -/
def fieldNames (spec : TypeSpec) : List Ident :=
  spec.fields.flatMap (·.names)

/-- How often a struct declares a field of the name. -/
def declaredTimes (name : String) (spec : TypeSpec) : Nat :=
  spec.fieldNames.countP (·.name == name)

theorem isStruct_iff : spec.isStruct ↔ ∃ list, spec.type = .structType list := by
  obtain ⟨_, _, _, type, _⟩ := spec
  cases type <;> simp [isStruct]

@[simp]
theorem name_mapFields : (spec.mapFields change).name = spec.name := by
  rw [mapFields]
  split <;> rfl

@[simp]
theorem isStruct_mapFields : (spec.mapFields change).isStruct = spec.isStruct := by
  rw [mapFields]
  split
  · simp [isStruct, *]
  · rfl

theorem fields_mapFields (isStruct : spec.isStruct) :
    (spec.mapFields change).fields = change spec.fields := by
  obtain ⟨list, same⟩ := isStruct_iff.1 isStruct
  simp [mapFields, fields, same]

theorem mapFields_eq_self (same : change spec.fields = spec.fields) :
    spec.mapFields change = spec := by
  obtain ⟨_, _, _, type, _⟩ := spec
  cases type with
  | structType list =>
      obtain ⟨fields, closing⟩ := list
      have sameFields : change fields = fields := same
      simp [mapFields, sameFields]
  | _ => rfl

theorem hasField_eq : spec.hasField name = spec.fieldNames.any (·.name == name) := by
  simp [hasField, fieldNames, Field.names?, List.any_flatMap]

theorem hasField_eq_false_iff : spec.hasField name = false ↔ spec.declaredTimes name = 0 := by
  simp [hasField_eq, declaredTimes, List.countP_eq_zero]

theorem fieldNames_addField {field : Field} (isStruct : spec.isStruct) (unnamed : field.names = []) :
    (spec.addField field).fieldNames = spec.fieldNames := by
  simp [fieldNames, addField, fields_mapFields isStruct, unnamed]

theorem embeds_addField {field : Field} (isStruct : spec.isStruct) :
    (spec.addField field).embeds name = (spec.embeds name || field.embeddedName? == some name) := by
  simp [embeds, addField, fields_mapFields isStruct]

theorem fieldNames_removeEmbedded (isStruct : spec.isStruct) :
    (spec.removeEmbedded name).fieldNames = spec.fieldNames := by
  rw [fieldNames, removeEmbedded, fields_mapFields isStruct, fieldNames]
  induction spec.fields with
  | nil => rfl
  | cons field rest ih =>
      rw [List.filter_cons]
      split
      · simp [ih]
      · rename_i embeds
        have unnamed : field.names = [] :=
          Field.names_of_embeddedName? (by simpa using embeds)
        simp [ih, unnamed]

theorem embeds_removeEmbedded (isStruct : spec.isStruct) :
    (spec.removeEmbedded name).embeds name = false := by
  simp [embeds, removeEmbedded, fields_mapFields isStruct]

/-! ### Dropping a name -/

section

variable {fields : List Field}

/-- A name that is declared once at most is no longer declared when it is dropped. -/
theorem countP_dropName (once : (fields.flatMap (·.names)).countP (·.name == name) ≤ 1) :
    ((dropName name fields).flatMap (·.names)).countP (·.name == name) = 0 := by
  induction fields with
  | nil => rfl
  | cons field rest ih =>
      rw [List.flatMap_cons, List.countP_append] at once
      rw [dropName]
      split
      · rename_i named
        have declared : 0 < field.names.countP (·.name == name) :=
          List.countP_pos_iff.2 (List.any_eq_true.1 named)
        have restNot : (rest.flatMap (·.names)).countP (·.name == name) = 0 := by omega
        split
        · rw [List.flatMap_cons, List.countP_append, restNot]
          simp [List.countP_eq_zero]
        · exact restNot
      · rename_i unnamed
        have fieldNot : field.names.countP (·.name == name) = 0 := by
          rw [List.countP_eq_zero]
          simpa [Field.names?] using unnamed
        rw [List.flatMap_cons, List.countP_append, fieldNot, Nat.zero_add]
        exact ih (by omega)

/-- Embedded fields stay where a name is dropped, and no other field becomes one. -/
theorem any_embeds_dropName (once : (fields.flatMap (·.names)).countP (·.name == name) ≤ 1) :
    (dropName name fields).any (·.embeddedName? == some other) =
      fields.any (·.embeddedName? == some other) := by
  induction fields with
  | nil => rfl
  | cons field rest ih =>
      rw [List.flatMap_cons, List.countP_append] at once
      rw [dropName]
      split
      · rename_i named
        rw [List.any_cons, Field.embeddedName?_of_names? named]
        split
        · rename_i several
          -- the line declares another name, since it declares this one only once
          have remains : field.names.filter (·.name != name) ≠ [] := by
            intro nothing
            have all : field.names.countP (·.name == name) = field.names.length := by
              rw [List.countP_eq_length]
              simpa using nothing
            omega
          rw [List.any_cons, Field.embeddedName?, if_neg (by simpa using remains)]
        · rfl
      · rw [List.any_cons, List.any_cons, ih (by omega)]

end

/-! ### Names in the type -/

theorem identsAll_fields (fields : List Field) :
    Field.identsAll fields = fields.flatMap fun field =>
      (field.names.flatMap fun ident => [ident]) ++ field.type.idents := by
  induction fields with
  | nil => rfl
  | cons field rest ih =>
      obtain ⟨_, names, type, _, _⟩ := field
      exact congrArg ((names.flatMap fun ident => [ident]) ++ type.idents ++ ·) ih

theorem thins_mapFields (fewer : ∀ fields,
      (Ident.places (Field.identsAll (change fields))).Sublist
        (Ident.places (Field.identsAll fields))) :
    (spec.mapFields change).Thins spec := by
  obtain ⟨_, _, _, type, _⟩ := spec
  cases type with
  | structType list =>
      obtain ⟨fields, closing⟩ := list
      exact ⟨rfl, fewer fields⟩
  | _ => exact thins_refl _

theorem thins_addField {field : Field} (placeless : Ident.places (Field.identsAll [field]) = []) :
    (spec.addField field).Thins spec := by
  apply thins_mapFields
  intro fields
  have sections : Field.identsAll (fields ++ [field]) =
      Field.identsAll fields ++ Field.identsAll [field] := by
    simp only [identsAll_fields, List.flatMap_append]
  rw [sections, Ident.places_append, placeless, List.append_nil]

theorem thins_removeEmbedded (name : String) (spec : TypeSpec) :
    (spec.removeEmbedded name).Thins spec := by
  apply thins_mapFields
  intro fields
  rw [identsAll_fields, identsAll_fields]
  exact (List.filter_sublist.flatMap _).filterMap _

theorem thins_dropName (name : String) (spec : TypeSpec) :
    (spec.mapFields (dropName name)).Thins spec := by
  apply thins_mapFields
  intro fields
  refine List.Sublist.filterMap _ ?_
  rw [identsAll_fields, identsAll_fields]
  induction fields with
  | nil => exact List.Sublist.refl _
  | cons field rest ih =>
      rw [dropName]
      split
      · split
        · have fewer : (field.names.filter (·.name != name)).Sublist field.names :=
            List.filter_sublist
          exact ((fewer.flatMap _).append_right _).append_right _
        · exact List.sublist_append_right _ _
      · exact ih.append_left _

end TypeSpec

/-! ## The form of a wrapped struct -/

namespace Wrapper

variable {wrapper : Wrapper} {spec enriched : TypeSpec}

/-- The struct has the wrapper, not the other one and not the managed field. -/
structure Wraps (wrapper : Wrapper) (spec : TypeSpec) : Prop where
  managed : spec.hasField managedField = false
  embeds : spec.embeds wrapper.name = true
  alone : ∀ other ≠ wrapper, spec.embeds other.name = false

theorem Wraps.select (wraps : wrapper.Wraps spec) : Wrapper.select spec = wrapper := by
  cases wrapper with
  | injectable => simp [Wrapper.select, wraps.embeds]
  | notInjectable => simp [Wrapper.select, wraps.managed, wraps.alone injectable]

theorem Wraps.enrich (wraps : wrapper.Wraps spec) : wrapper.enrich spec = .ok spec := by
  have embedded : wrapper.embed spec = spec := if_pos wraps.embeds
  cases wrapper with
  | notInjectable => exact congrArg Except.ok embedded
  | injectable =>
      have nothing : spec.removeEmbedded notInjectable.name = spec := by
        apply TypeSpec.mapFields_eq_self
        have others := wraps.alone notInjectable (by decide)
        rw [List.filter_eq_self]
        simpa [TypeSpec.embeds] using others
      simp [Wrapper.enrich, nothing, embedded, wraps.managed]

theorem name_embed : (wrapper.embed spec).name = spec.name := by
  rw [embed]
  split
  · rfl
  · rw [TypeSpec.addField, TypeSpec.name_mapFields]

theorem isStruct_embed : (wrapper.embed spec).isStruct = spec.isStruct := by
  rw [embed]
  split
  · rfl
  · rw [TypeSpec.addField, TypeSpec.isStruct_mapFields]

theorem embeddedName?_wrapper (wrapper : Wrapper) :
    (Field.embedded (.star (.ofName wrapper.name))).embeddedName? = some wrapper.name := by
  cases wrapper <;> decide

theorem name_injective {wrapper other : Wrapper} (same : wrapper.name = other.name) :
    wrapper = other := by
  cases wrapper <;> cases other <;> first | rfl | exact absurd same (by decide)

section

variable (isStruct : spec.isStruct)

include isStruct

theorem fieldNames_embed : (wrapper.embed spec).fieldNames = spec.fieldNames := by
  rw [embed]
  split
  · rfl
  · exact TypeSpec.fieldNames_addField isStruct rfl

theorem embeds_embed_self : (wrapper.embed spec).embeds wrapper.name = true := by
  rw [embed]
  split
  · assumption
  · rw [TypeSpec.embeds_addField isStruct, embeddedName?_wrapper]
    simp

theorem embeds_embed_other {other : Wrapper} (apart : other ≠ wrapper) :
    (wrapper.embed spec).embeds other.name = spec.embeds other.name := by
  have named : wrapper.name ≠ other.name := fun same => apart (name_injective same).symm
  rw [embed]
  split
  · rfl
  · rw [TypeSpec.embeds_addField isStruct, embeddedName?_wrapper]
    simp [named]

end

/-- What the wrapper that manages the field makes of a struct. -/
theorem enrich_injectable_cases (wrapped : injectable.enrich spec = .ok enriched) :
    (enriched = injectable.embed (spec.removeEmbedded notInjectable.name) ∧
        enriched.hasField managedField = false) ∨
      enriched = (injectable.embed (spec.removeEmbedded notInjectable.name)).mapFields
        (TypeSpec.dropName managedField) := by
  simp only [Wrapper.enrich] at wrapped
  split at wrapped
  · rename_i managed
    rw [TypeSpec.removeField, if_pos managed] at wrapped
    exact .inr (Except.ok.inj wrapped).symm
  · rename_i unmanaged
    cases wrapped
    exact .inl ⟨rfl, by simpa using unmanaged⟩

/-- A struct without the managed field has its wrapper if it had it before. -/
theorem wraps_of_dropName (isStruct : spec.isStruct)
    (once : spec.declaredTimes managedField ≤ 1) (embeds : spec.embeds wrapper.name = true)
    (alone : ∀ other ≠ wrapper, spec.embeds other.name = false) :
    wrapper.Wraps (spec.mapFields (TypeSpec.dropName managedField)) := by
  have same : ∀ name, (spec.mapFields (TypeSpec.dropName managedField)).embeds name =
      spec.embeds name := by
    intro name
    rw [TypeSpec.embeds, TypeSpec.fields_mapFields isStruct, TypeSpec.any_embeds_dropName once]
    rfl
  refine ⟨?_, (same _).trans embeds, fun other apart => (same _).trans (alone other apart)⟩
  rw [TypeSpec.hasField_eq_false_iff, TypeSpec.declaredTimes, TypeSpec.fieldNames,
    TypeSpec.fields_mapFields isStruct]
  exact TypeSpec.countP_dropName once

/-- Enriching a struct that declared the managed field once at most brings it into the form of a
wrapped one. -/
theorem wraps_of_enrich (isStruct : spec.isStruct) (once : spec.declaredTimes managedField ≤ 1)
    (wrapped : (Wrapper.select spec).enrich spec = .ok enriched) :
    (Wrapper.select spec).Wraps enriched := by
  generalize selected : Wrapper.select spec = wrapper at wrapped ⊢
  cases wrapper with
  | notInjectable =>
      have bare : spec.hasField managedField = false ∧ spec.embeds injectable.name = false := by
        simpa [Wrapper.select] using selected
      cases wrapped
      refine ⟨?_, embeds_embed_self isStruct, ?_⟩
      · rw [TypeSpec.hasField_eq, fieldNames_embed isStruct, ← TypeSpec.hasField_eq]
        exact bare.1
      · intro other apart
        rw [embeds_embed_other isStruct apart]
        cases other with
        | injectable => exact bare.2
        | notInjectable => exact absurd rfl apart
  | injectable =>
      have cleared : (spec.removeEmbedded notInjectable.name).isStruct := by
        rwa [TypeSpec.removeEmbedded, TypeSpec.isStruct_mapFields]
      have others : ∀ other ≠ injectable,
          (injectable.embed (spec.removeEmbedded notInjectable.name)).embeds other.name =
            false := by
        intro other apart
        rw [embeds_embed_other cleared apart]
        cases other with
        | injectable => exact absurd rfl apart
        | notInjectable => exact TypeSpec.embeds_removeEmbedded isStruct
      have times : (injectable.embed (spec.removeEmbedded notInjectable.name)).declaredTimes
          managedField ≤ 1 := by
        rw [TypeSpec.declaredTimes, fieldNames_embed cleared,
          TypeSpec.fieldNames_removeEmbedded isStruct]
        exact once
      have own : (injectable.embed (spec.removeEmbedded notInjectable.name)).embeds
          injectable.name = true := embeds_embed_self cleared
      have embedded : (injectable.embed (spec.removeEmbedded notInjectable.name)).isStruct := by
        rwa [isStruct_embed]
      rcases enrich_injectable_cases wrapped with ⟨rfl, unmanaged⟩ | rfl
      · exact ⟨unmanaged, own, others⟩
      · exact wraps_of_dropName embedded times own others

/-! ## What enriching keeps -/

theorem thins_embed (wrapper : Wrapper) (spec : TypeSpec) : (wrapper.embed spec).Thins spec := by
  rw [embed]
  split
  · exact spec.thins_refl
  · apply TypeSpec.thins_addField
    cases wrapper <;> decide

/-- Enriching a struct keeps its name and brings no place into it. -/
theorem enrich_keeps (wrapped : wrapper.enrich spec = .ok enriched) :
    enriched.name = spec.name ∧ enriched.isStruct = spec.isStruct ∧ enriched.Thins spec := by
  cases wrapper with
  | notInjectable =>
      cases wrapped
      exact ⟨name_embed, isStruct_embed, thins_embed _ _⟩
  | injectable =>
      have embedded : (injectable.embed (spec.removeEmbedded notInjectable.name)).Thins spec :=
        (spec.thins_removeEmbedded _).trans (thins_embed _ _)
      have name : (injectable.embed (spec.removeEmbedded notInjectable.name)).name =
          spec.name := by
        rw [name_embed, TypeSpec.removeEmbedded, TypeSpec.name_mapFields]
      have isStruct : (injectable.embed (spec.removeEmbedded notInjectable.name)).isStruct =
          spec.isStruct := by
        rw [isStruct_embed, TypeSpec.removeEmbedded, TypeSpec.isStruct_mapFields]
      rcases enrich_injectable_cases wrapped with ⟨rfl, _⟩ | rfl
      · exact ⟨name, isStruct, embedded⟩
      · rw [TypeSpec.name_mapFields, TypeSpec.isStruct_mapFields]
        exact ⟨name, isStruct, embedded.trans (TypeSpec.thins_dropName _ _)⟩

/-- Enriching a struct in its own place. -/
theorem replaces_of_enrich (isStruct : spec.isStruct) (solitary : spec.Solitary)
    (placed : spec.name.offset ≠ none) (wrapped : wrapper.enrich spec = .ok enriched) :
    enriched.Replaces spec := by
  obtain ⟨name, same, thins⟩ := enrich_keeps wrapped
  obtain ⟨start, place⟩ := Option.ne_none_iff_exists'.1 placed
  refine ⟨name, same ▸ isStruct, ?_⟩
  intro ident member isSame
  have isPlace : start ∈ Ident.places enriched.type.idents :=
    Ident.mem_places.2 ⟨ident, member, isSame.trans (name ▸ place)⟩
  obtain ⟨other, inSpec, otherPlace⟩ := Ident.mem_places.1 (thins.places.subset isPlace)
  exact solitary other inSpec (otherPlace.trans place.symm)

end Wrapper

end GoMend
