import GoMend.Proofs.Wrap.Enriching

/-!
# What enriching keeps of a struct

An enriched struct consists of its old field lines and perhaps one more.  Lines that embed another
wrapper are gone, the managed field is gone from the line that declared it, and all other lines are
as they were and in their old order.
-/

namespace GoMend

/-! ## Field lines without a name -/

namespace Field

variable {field : Field} {name : String}

/-- What is left of a field line without a name: nothing of a line that declares no other, and of
any other line all but the name. -/
def without? (name : String) (field : Field) : Option Field :=
  if field.names? name then
    let names := field.names.filter (·.name != name)
    if names.isEmpty then none else some { field with names }
  else some field

theorem without?_of_not_names? (absent : field.names? name = false) :
    field.without? name = some field := by
  rw [without?, if_neg (by simp [absent])]

end Field

namespace TypeSpec

variable {spec : TypeSpec} {fields : List Field} {name other : String}
  {change next : List Field → List Field}

theorem mapFields_congr (same : change spec.fields = next spec.fields) :
    spec.mapFields change = spec.mapFields next := by
  obtain ⟨_, _, _, type, _⟩ := spec
  cases type with
  | structType list =>
      have sameFields : change list.fields = next list.fields := same
      simp [mapFields, sameFields]
  | _ => rfl

theorem mapFields_mapFields :
    (spec.mapFields change).mapFields next = spec.mapFields (next ∘ change) := by
  obtain ⟨_, _, _, type, _⟩ := spec
  cases type <;> rfl

/-- A name that no line declares is missed by no line. -/
theorem filterMap_without? (absent : ∀ field ∈ fields, field.names? name = false) :
    fields.filterMap (·.without? name) = fields := by
  rw [List.filterMap_congr fun field member => Field.without?_of_not_names? (absent field member)]
  exact List.filterMap_some

/-- Where a name is declared once at most, dropping it from the first line that declares it drops
it from all lines. -/
theorem dropName_eq_filterMap (once : (fields.flatMap (·.names)).countP (·.name == name) ≤ 1) :
    dropName name fields = fields.filterMap (·.without? name) := by
  induction fields with
  | nil => rfl
  | cons field rest ih =>
      rw [List.flatMap_cons, List.countP_append] at once
      rw [dropName, List.filterMap_cons, Field.without?]
      split
      · rename_i named
        have declared : 0 < field.names.countP (·.name == name) :=
          List.countP_pos_iff.2 (List.any_eq_true.1 named)
        have restNot : (rest.flatMap (·.names)).countP (·.name == name) = 0 := by omega
        have kept : rest.filterMap (·.without? name) = rest := by
          apply filterMap_without?
          intro other member
          have absent := List.countP_eq_zero.1 restNot
          rw [Field.names?, List.any_eq_false]
          intro ident inNames
          exact absent ident (List.mem_flatMap.2 ⟨other, member, inNames⟩)
        -- one name goes, so the line is left with the others
        have remaining : (field.names.filter (·.name != name)).length + 1 =
            field.names.length := by
          have parts := List.length_eq_length_filter_add (l := field.names) (·.name == name)
          rw [← List.countP_eq_length_filter] at parts
          change _ = _ + (field.names.filter (·.name != name)).length at parts
          omega
        split
        · rename_i several
          have filled : (field.names.filter (·.name != name)).isEmpty = false := by
            rw [List.isEmpty_eq_false_iff]
            rintro nothing
            simp only [nothing, List.length_nil] at remaining
            omega
          simp only [filled, kept, Bool.false_eq_true, if_false]
        · rename_i single
          have nothing : field.names.filter (·.name != name) = [] :=
            List.eq_nil_of_length_eq_zero (by omega)
          simp only [nothing, kept, List.isEmpty_nil, if_true]
      · rename_i unnamed
        have fieldNot : field.names.countP (·.name == name) = 0 := by
          rw [List.countP_eq_zero]
          simpa [Field.names?] using unnamed
        rw [ih (by omega)]

/-- A name that is declared once at most is removed where it is declared. -/
theorem removeField_eq_filterMap (once : spec.declaredTimes name ≤ 1) :
    (if spec.hasField name then spec.removeField name else .ok spec) =
      .ok (spec.mapFields (·.filterMap (·.without? name))) := by
  split
  · rename_i declared
    rw [removeField, if_pos declared]
    exact congrArg Except.ok (mapFields_congr (dropName_eq_filterMap once))
  · rename_i undeclared
    refine congrArg Except.ok (mapFields_eq_self (filterMap_without? fun field member => ?_)).symm
    exact Bool.eq_false_iff.2 fun named => undeclared (List.any_eq_true.2 ⟨field, member, named⟩)

theorem embeds_removeEmbedded_other (apart : other ≠ name) (isStruct : spec.isStruct) :
    (spec.removeEmbedded name).embeds other = spec.embeds other := by
  simp only [embeds, removeEmbedded, fields_mapFields isStruct, List.any_filter]
  congr 1
  funext field
  by_cases isOther : field.embeddedName? = some other
  · simp [isOther, apart]
  · simp [isOther]

end TypeSpec

namespace Wrapper

variable {wrapper : Wrapper} {spec : TypeSpec}

/-- What is left of a field line of a struct that the wrapper is embedded in: nothing of a line
that embeds another wrapper, and of any other line all but the managed field. -/
def kept? (wrapper : Wrapper) (field : Field) : Option Field :=
  if all.any fun other => other != wrapper && field.embeddedName? == some other.name then none
  else field.without? managedField

/-- The line that embeds the wrapper, if none does yet. -/
def added (wrapper : Wrapper) (spec : TypeSpec) : List Field :=
  if spec.embeds wrapper.name then [] else [.embedded (.star (.ofName wrapper.name))]

theorem kept?_notInjectable_of_bare {field : Field} (unmanaged : field.names? managedField = false)
    (alone : field.embeddedName? ≠ some injectable.name) :
    notInjectable.kept? field = some field := by
  have others : (all.any fun other =>
      other != notInjectable && field.embeddedName? == some other.name) = false := by
    simp [all, alone]
  rw [kept?, others, if_neg (by decide), Field.without?_of_not_names? unmanaged]

theorem kept?_injectable (field : Field) :
    injectable.kept? field =
      if field.embeddedName? != some notInjectable.name then field.without? managedField
      else none := by
  have others : (all.any fun other =>
      other != injectable && field.embeddedName? == some other.name) =
        (field.embeddedName? == some notInjectable.name) := by
    simp [all]
  rw [kept?, others]
  by_cases other : field.embeddedName? = some notInjectable.name <;> simp [other]

theorem embed_eq : wrapper.embed spec = spec.mapFields (· ++ wrapper.added spec) := by
  rw [embed, added]
  split
  · exact (TypeSpec.mapFields_eq_self (List.append_nil _)).symm
  · rfl

/-- A struct with neither a managed field nor the other wrapper keeps all its lines. -/
theorem filterMap_kept?_of_bare (unmanaged : spec.hasField managedField = false)
    (alone : spec.embeds injectable.name = false) :
    spec.fields.filterMap (kept? notInjectable) = spec.fields := by
  rw [List.filterMap_congr (g := some), List.filterMap_some]
  intro field member
  apply kept?_notInjectable_of_bare
  · exact Bool.eq_false_iff.2 fun managed =>
      Bool.eq_false_iff.1 unmanaged (List.any_eq_true.2 ⟨field, member, managed⟩)
  · intro embeds
    have found := List.any_eq_false.1 alone field member
    simp [embeds] at found

/-- The line that embeds a wrapper declares no name. -/
theorem filterMap_without?_added (name : String) :
    (wrapper.added spec).filterMap (·.without? name) = wrapper.added spec := by
  apply TypeSpec.filterMap_without?
  intro field member
  rw [added] at member
  split at member
  · cases member
  · rw [List.mem_singleton.1 member]
    rfl

/-- The lines of a struct that the injectable wrapper is embedded in instead of the other one. -/
theorem embed_removeEmbedded (isStruct : spec.isStruct) :
    injectable.embed (spec.removeEmbedded notInjectable.name) =
      spec.mapFields fun fields =>
        fields.filter (·.embeddedName? != some notInjectable.name) ++ injectable.added spec := by
  have own : (spec.removeEmbedded notInjectable.name).embeds injectable.name =
      spec.embeds injectable.name :=
    TypeSpec.embeds_removeEmbedded_other (by decide) isStruct
  have same : injectable.added (spec.removeEmbedded notInjectable.name) =
      injectable.added spec := by
    rw [added, added, own]
  rw [embed_eq, same, TypeSpec.removeEmbedded, TypeSpec.mapFields_mapFields]
  rfl

/-- The lines of an enriched struct. -/
theorem enrich_select_eq (isStruct : spec.isStruct) (once : spec.declaredTimes managedField ≤ 1) :
    (select spec).enrich spec =
      .ok (spec.mapFields fun fields =>
        fields.filterMap (kept? (select spec)) ++ (select spec).added spec) := by
  cases selected : select spec with
  | notInjectable =>
      have bare : spec.hasField managedField = false ∧ spec.embeds injectable.name = false := by
        simpa [select] using selected
      rw [enrich, embed_eq]
      refine congrArg Except.ok (TypeSpec.mapFields_congr ?_)
      rw [filterMap_kept?_of_bare bare.1 bare.2]
  | injectable =>
      have times : (injectable.embed (spec.removeEmbedded notInjectable.name)).declaredTimes
          managedField ≤ 1 := by
        rwa [TypeSpec.declaredTimes,
          fieldNames_embed (by rwa [TypeSpec.removeEmbedded, TypeSpec.isStruct_mapFields]),
          TypeSpec.fieldNames_removeEmbedded isStruct]
      have each : (fun field : Field =>
          if field.embeddedName? != some notInjectable.name then field.without? managedField
          else none) = kept? injectable :=
        funext fun field => (kept?_injectable field).symm
      rw [enrich]
      refine (TypeSpec.removeField_eq_filterMap times).trans (congrArg Except.ok ?_)
      rw [embed_removeEmbedded isStruct, TypeSpec.mapFields_mapFields]
      apply TypeSpec.mapFields_congr
      simp only [Function.comp_apply, List.filterMap_append, List.filterMap_filter,
        filterMap_without?_added, each]

/-- Enriching a struct that declares the managed field once at most, as one does whose fields have
different names, with the wrapper that it selects.  The struct has this wrapper and not the other
one, and no managed field; nothing else of it has changed; and the wrapper is selected again and
leaves the struct alone. -/
theorem enrich_normalForm (isStruct : spec.isStruct) (once : spec.declaredTimes managedField ≤ 1) :
    ∃ enriched, (select spec).enrich spec = .ok enriched ∧
      enriched.embeds (select spec).name = true ∧
      (∀ other ≠ select spec, enriched.embeds other.name = false) ∧
      enriched.hasField managedField = false ∧
      enriched = spec.mapFields (fun fields =>
        fields.filterMap (kept? (select spec)) ++ (select spec).added spec) ∧
      (select spec = .injectable ↔
        spec.hasField managedField ∨ spec.embeds Wrapper.injectable.name) ∧
      select enriched = select spec ∧ (select spec).enrich enriched = .ok enriched := by
  have enriches := enrich_select_eq isStruct once
  have wraps := wraps_of_enrich isStruct once enriches
  refine ⟨_, enriches, wraps.embeds, wraps.alone, wraps.managed, rfl, ?_, wraps.select,
    wraps.enrich⟩
  rw [select]
  split <;> simp_all

/-- A struct with the managed field on a line with another one, and with both wrappers. -/
def mingled : TypeSpec :=
  { doc := []
    name := .ofName "F"
    isAlias := false
    type := .structType ⟨[.embedded (.star (.ofName "q.NotInjectable")),
      { Field.named "n" (.ofName "int") with names := [.ofName "n", .ofName managedField] },
      .embedded (.ofName "Injectable")], []⟩
    comment := none }

theorem enrich_normalForm_mingled :
    mingled.isStruct ∧ mingled.declaredTimes managedField ≤ 1 ∧
      ∃ enriched, (select mingled).enrich mingled = .ok enriched ∧
        enriched.fields.map (fun field => (field.names.map (·.name), field.embeddedName?)) =
          [(["n"], none), ([], some "Injectable")] := by
  have isStruct : mingled.isStruct := rfl
  have once : mingled.declaredTimes managedField ≤ 1 := by decide
  obtain ⟨enriched, enriches, -, -, -, rfl, -⟩ := enrich_normalForm isStruct once
  exact ⟨isStruct, once, _, enriches, by decide +kernel⟩

end Wrapper

end GoMend
