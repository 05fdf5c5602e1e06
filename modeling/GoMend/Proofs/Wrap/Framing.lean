import GoMend.Proofs.Unit.Redeclared
import GoMend.Proofs.Wrap.Idempotence
import GoMend.Proofs.Wrap.NormalForm

/-!
# What moving a file leaves as it is

Moving a file into the package changes the name of the package, the fields of one struct and the
body of one function, and nothing else.  The struct may stand in the body of any function, that of
the constructor included, and there it is changed whether or not a constructor is found and wrapped.
-/

namespace GoMend

open Ident (places)

namespace Wrapper

variable {wrapper : Wrapper} {spec enriched : TypeSpec} {decl normal : FuncDecl}

/-- Enriching a struct changes its fields only. -/
theorem enrich_eq_mapFields (wrapped : wrapper.enrich spec = .ok enriched) :
    ∃ fields, enriched = spec.mapFields fun _ => fields := by
  have constant : ∀ change, ∃ fields, spec.mapFields change = spec.mapFields fun _ => fields :=
    fun change => ⟨change spec.fields, TypeSpec.mapFields_congr rfl⟩
  cases wrapper with
  | notInjectable =>
      cases wrapped
      rw [embed_eq]
      exact constant _
  | injectable =>
      rcases enrich_injectable_cases wrapped with ⟨rfl, _⟩ | rfl
      · rw [embed_eq, TypeSpec.removeEmbedded, TypeSpec.mapFields_mapFields]
        exact constant _
      · rw [embed_eq, TypeSpec.removeEmbedded, TypeSpec.mapFields_mapFields,
          TypeSpec.mapFields_mapFields]
        exact constant _

/-- Wrapping a constructor brings no place and no type declaration into it. -/
theorem normalizeConstructor_thins (normalized : wrapper.normalizeConstructor decl = .ok normal) :
    normal.Thins decl := by
  obtain ⟨present, init, hasBody, builds, rfl⟩ := normalizeConstructor_eq_ok_iff.1 normalized
  obtain ⟨_, receiver, name, signature, body⟩ := decl
  obtain rfl : body = some present := hasBody
  constructor
  · have placeless : places (wrapper.body init).idents = places init.idents := by
      rw [Block.idents, collect_body, Ident.places_append, Ident.places_append]
      exact List.append_nil _
    have inBody : (places (wrapper.body init).idents).Sublist (places present.idents) :=
      placeless ▸ builds.collect_sublist.filterMap _
    simp only [FuncDecl.idents, FuncDecl.collect, FuncDecl.withBody, Ident.places_append]
    exact inBody.append_left _
  · have same : (wrapper.body init).typeDecls = init.collect (fun _ => []) fun decl =>
        if decl.keyword = .types then some [decl] else none := by
      rw [Block.typeDecls, collect_body]
      exact List.append_nil _
    have inBody : (wrapper.body init).typeDecls ⊆ present.typeDecls :=
      same ▸ builds.collect_sublist.subset
    exact List.append_subset.2 ⟨List.subset_append_left _ _,
      List.subset_append_of_subset_right _ inBody⟩

end Wrapper

/-! ## Moving a unit that was reached -/

namespace Pipeline

variable {pipeline : Pipeline} {wrapper : Wrapper} {source : Source}

/-- What wrapping the struct does to a file in which every name has its own place. -/
theorem wrapStructure_frame (pipeline : Pipeline) (addressed : source.file.Addressed) :
    (∀ decl ∈ source.file.typeDecls, ∀ spec, .type spec ∈ decl.specs →
          ¬spec.Fits pipeline.structures) ∧
        pipeline.wrapStructure source = (.ok none, source) ∨
      ∃ heads decl tails before spec after fields onType,
        source.file.LastStruct pipeline.structures heads decl tails before spec after ∧
        (Wrapper.select spec).enrich spec = .ok (spec.mapFields fun _ => fields) ∧
        source.file.Exchanged heads decl
          { decl with specs := before ++ .type (spec.mapFields fun _ => fields) :: after } tails
          (source.file.mapTypes onType).decls ∧
        pipeline.wrapStructure source = (.ok (some (Wrapper.select spec)),
          { source with file := source.file.mapTypes onType }) := by
  cases found : source.file.structure? pipeline.structures with
  | none => exact .inl ⟨File.structure?_eq_none_iff.1 found, wrapStructure_of_none found⟩
  | some spec =>
      obtain ⟨heads, decl, tails, locates⟩ := addressed.locates found
      obtain ⟨before, after, declares⟩ := locates.declares
      have enriched := Wrapper.enrich_select spec
      obtain ⟨fields, refielded⟩ := Wrapper.enrich_eq_mapFields enriched
      have exchanged : File.Exchanged _ _ _ _ _
          (source.file.editTypeAt spec.name.offset Wrapper.wrapped).decls :=
        locates.exchanged declares
      rw [refielded] at enriched exchanged
      exact .inr ⟨_, decl, _, before, spec, after, fields, _, locates.lastStruct declares, enriched,
        exchanged, wrapStructure_of_some found⟩

/-- What wrapping the constructor does to a file with type entries replaced, told by the file before
that. -/
theorem wrapFunction_frame (pipeline : Pipeline) (wrapper : Wrapper) (source : Source)
    {file : File} {onType : TypeSpec → Option TypeSpec}
    (same : source.file.decls = (file.mapTypes onType).decls) :
    ∃ outcome decls,
      pipeline.wrapFunction wrapper source =
        (outcome, { source with file := { source.file with decls } }) ∧
      ((∀ function ∈ file.funcDecls, function.matchesName pipeline.functions = false) ∧
          outcome = .ok none ∧ decls = source.file.decls ∨
        ∃ front function back front' function' back',
          file.LastFunction pipeline.functions front function back ∧
          source.file.decls = front' ++ .func function' :: back' ∧ front'.length = front.length ∧
          ((∃ fault, outcome = .error fault) ∧ decls = source.file.decls ∨
            ∃ body, outcome = .ok (some ⟨wrapper, function.name.name⟩) ∧
              decls = front' ++ .func (function'.withBody body) :: back')) := by
  rcases wrapFunction_cases pipeline wrapper source with ⟨unmatched, result⟩ |
    ⟨front', function', back', found, result⟩
  · have funcDecls : source.file.funcDecls = (file.mapTypes onType).funcDecls := by
      rw [File.funcDecls, same, File.funcDecls]
    exact ⟨_, _, result, .inl ⟨File.unmatched_of_mapTypes (funcDecls ▸ unmatched), rfl, rfl⟩⟩
  · have foundThere : (file.mapTypes onType).LastFunction pipeline.functions front' function'
        back' := ⟨same ▸ found.sections, found.isMatch, found.last⟩
    obtain ⟨front, function, back, isLast, length, rebuilt⟩ := foundThere.of_mapTypes
    have named : function'.name.name = function.name.name := rebuilt ▸ rfl
    rcases result with ⟨fault, _, result⟩ | ⟨body, _, result⟩
    · exact ⟨_, _, result, .inr ⟨front, function, back, front', function', back', isLast,
        found.sections, length.symm, .inl ⟨⟨fault, rfl⟩, rfl⟩⟩⟩
    · exact ⟨_, _, named ▸ result, .inr ⟨front, function, back, front', function', back', isLast,
        found.sections, length.symm, .inr ⟨body, rfl, rfl⟩⟩⟩

/-- Wrapping the struct is an edit of a struct that only takes away, if anything is found. -/
theorem wrapStructure_edits (pipeline : Pipeline) (source : Source) :
    (pipeline.wrapStructure source).2 = source ∨
      ∃ (edit : TypeSpec → Except Fault Wrapper × TypeSpec) (result : Except Fault Wrapper),
        (∀ spec, (edit spec).2.Thins spec) ∧
        source.editStructure? pipeline.structures edit =
          some (result, (pipeline.wrapStructure source).2) := by
  rw [wrapStructure]
  split
  · exact .inl rfl
  · rename_i edited
    refine .inr ⟨_, _, fun spec => ?_, edited⟩
    cases enriched : (Wrapper.select spec).enrich spec with
    | ok => simpa only [enriched] using (Wrapper.enrich_keeps enriched).2.2
    | error => simpa only [enriched] using spec.thins_refl

/-- Wrapping the constructor is an edit of a function that only takes away, if anything is
found. -/
theorem wrapFunction_edits (pipeline : Pipeline) (wrapper : Wrapper) (source : Source) :
    (pipeline.wrapFunction wrapper source).2 = source ∨
      ∃ (edit : FuncDecl → Except Fault Record × FuncDecl) (result : Except Fault Record),
        (∀ decl, (edit decl).2.Thins decl) ∧
        source.editFunction? pipeline.functions edit =
          some (result, (pipeline.wrapFunction wrapper source).2) := by
  rw [wrapFunction]
  split
  · exact .inl rfl
  · rename_i edited
    refine .inr ⟨_, _, fun decl => ?_, edited⟩
    cases normalized : wrapper.normalizeConstructor decl with
    | ok => simpa only [normalized] using Wrapper.normalizeConstructor_thins normalized
    | error => simpa only [normalized] using decl.thins_refl

/-- Moving a unit is renaming its package, then wrapping the struct, then at most wrapping the
constructor. -/
theorem transform_edits (pipeline : Pipeline) (source : Source) :
    ∃ wrapped, wrapped = (pipeline.wrapStructure (source.renamePackage pipeline.package)).2 ∧
      ((pipeline.transform source).2 = wrapped ∨
        ∃ wrapper, (pipeline.transform source).2 = (pipeline.wrapFunction wrapper wrapped).2) := by
  refine ⟨_, rfl, ?_⟩
  rw [transform]
  split <;> rename_i same <;> rw [same]
  · exact .inl rfl
  · exact .inl rfl
  · exact .inr ⟨_, rfl⟩

section

variable (addressed : source.file.Addressed)

include addressed

theorem wrapStructure_thins (pipeline : Pipeline) :
    (pipeline.wrapStructure source).2.Thins source := by
  rcases wrapStructure_edits pipeline source with same | ⟨edit, result, thins, edited⟩
  · rw [same]
    exact Source.thins_refl addressed
  · exact Source.editStructure?_thins addressed thins edited

theorem wrapFunction_thins (pipeline : Pipeline) (wrapper : Wrapper) :
    (pipeline.wrapFunction wrapper source).2.Thins source := by
  rcases wrapFunction_edits pipeline wrapper source with same | ⟨edit, result, thins, edited⟩
  · rw [same]
    exact Source.thins_refl addressed
  · exact Source.editFunction?_thins addressed thins edited

/-- Moving a unit brings no place into it. -/
theorem transform_thins (pipeline : Pipeline) : (pipeline.transform source).2.Thins source := by
  have renamed := Source.renamePackage_thins addressed pipeline.package
  have wrapped := renamed.trans (wrapStructure_thins renamed.addressed pipeline)
  obtain ⟨_, rfl, same | ⟨wrapper, same⟩⟩ := transform_edits pipeline source <;> rw [same]
  · exact wrapped
  · exact wrapped.trans (wrapFunction_thins wrapped.addressed pipeline wrapper)

end

/-- What moving a file changes.  Besides the name of the package it is the fields of the last struct
that fits, if there is one, and then the body of the last function that matches, if there is one
and it can be wrapped. -/
theorem transform_frame (pipeline : Pipeline) (reached : source.Reached) :
    ∃ outcome decls,
      pipeline.transform source = (outcome, { source with file := { source.file with
        package := { source.file.package with name := pipeline.package }, decls } }) ∧
      ((∀ decl ∈ source.file.typeDecls, ∀ spec, .type spec ∈ decl.specs →
            ¬spec.Fits pipeline.structures) ∧
          outcome = .ok none ∧ decls = source.file.decls ∨
        ∃ heads decl tails before spec after fields middle,
          source.file.LastStruct pipeline.structures heads decl tails before spec after ∧
          (Wrapper.select spec).enrich spec = .ok (spec.mapFields fun _ => fields) ∧
          source.file.Exchanged heads decl
            { decl with specs := before ++ .type (spec.mapFields fun _ => fields) :: after } tails
            middle ∧
          ((∀ function ∈ source.file.funcDecls,
                function.matchesName pipeline.functions = false) ∧
              outcome = .ok none ∧ decls = middle ∨
            ∃ front function back front' function' back',
              source.file.LastFunction pipeline.functions front function back ∧
              middle = front' ++ .func function' :: back' ∧ front'.length = front.length ∧
              ((∃ fault, outcome = .error fault) ∧ decls = middle ∨
                ∃ body, outcome = .ok (some ⟨Wrapper.select spec, function.name.name⟩) ∧
                  decls = front' ++ .func (function'.withBody body) :: back'))) := by
  have addressed := (Source.Reached.renamed pipeline.package reached).addressed
  rcases wrapStructure_frame pipeline addressed with ⟨unfit, wrapped⟩ |
    ⟨heads, decl, tails, before, spec, after, fields, onType, isStruct, enriched, exchanged,
      wrapped⟩
  · refine ⟨.ok none, source.file.decls, ?_, .inl ⟨unfit, rfl, rfl⟩⟩
    rw [transform, wrapped]
    rfl
  have located : source.file.LastStruct pipeline.structures heads decl tails before spec after :=
    ⟨isStruct.sections, isStruct.entries, isStruct.fits, isStruct.first, isStruct.last⟩
  have framed : source.file.Exchanged heads decl
      { decl with specs := before ++ .type (spec.mapFields fun _ => fields) :: after } tails
      (source.file.mapTypes onType).decls := ⟨exchanged.redeclared, exchanged.typeDecls⟩
  have sameDecls : ((source.renamePackage pipeline.package).file.mapTypes onType).decls =
      (source.file.mapTypes onType).decls := rfl
  obtain ⟨outcome, decls, moved, functions⟩ := wrapFunction_frame pipeline (Wrapper.select spec)
    { source.renamePackage pipeline.package with
      file := (source.renamePackage pipeline.package).file.mapTypes onType } sameDecls
  refine ⟨outcome, decls, ?_, .inr ⟨heads, decl, tails, before, spec, after, fields, _, located,
    enriched, framed, functions⟩⟩
  rw [transform, wrapped]
  exact moved

/-- A file that was read, looked at with a pipeline for structs with an `F` and functions with an
`N` in their names. -/
theorem exists_isRead {α : Type} {shown : α} (text : String) (look : Pipeline → Source → α)
    (checked : (ofTexts .standard "q" "F" "N" "" "").toOption.bind (fun pipeline =>
      (Source.parse ⟨"a.go"⟩ text).toOption.map fun source => (source.path, look pipeline source)) =
        some (⟨"a.go"⟩, shown)) :
    ∃ (pipeline : Pipeline) (source : Source), source.IsRead ∧ look pipeline source = shown := by
  obtain ⟨pipeline, _, checked⟩ := Option.bind_eq_some_iff.1 checked
  obtain ⟨source, parsed, checked⟩ := Option.map_eq_some_iff.1 checked
  obtain ⟨path, isShown⟩ := Prod.mk.inj checked
  refine ⟨pipeline, source, ⟨text, ?_⟩, isShown⟩
  cases read : Source.parse ⟨"a.go"⟩ text with
  | error fault =>
      rw [read] at parsed
      cases parsed
  | ok other =>
      rw [read] at parsed
      cases parsed
      rw [path, read]

/-- A struct and its constructor, moved after an import was added. -/
theorem transform_frame_imported :
    ∃ (pipeline : Pipeline) (source : Source), source.Reached ∧
      ∃ heads decl tails before spec after fields front function back body,
        source.file.LastStruct pipeline.structures heads decl tails before spec after ∧
        source.file.Exchanged heads decl
          { decl with specs := before ++ .type (spec.mapFields fun _ => fields) :: after } tails
          (front ++ .func function :: back) ∧
        (pipeline.transform source).2.file.decls =
          front ++ .func (function.withBody body) :: back := by
  obtain ⟨pipeline, source, isRead, told⟩ := exists_isRead
    "package p\ntype F struct{ n int }\nfunc N() *F { return &F{} }"
    (fun pipeline source => (pipeline.transform (source.addImport (some "e") "x").2).1.toOption)
    (show _ = some (_, some (some ⟨.notInjectable, "N"⟩)) by decide +kernel)
  have reached : (source.addImport (some "e") "x").2.Reached := .imported _ _ (.read isRead)
  refine ⟨pipeline, _, reached, ?_⟩
  obtain ⟨outcome, decls, moved, ⟨_, rfl, _⟩ | ⟨heads, decl, tails, before, spec, after, fields,
    middle, located, _, exchanged, ⟨_, rfl, _⟩ | ⟨_, _, _, front, function, back, _, rfl, _,
      ⟨⟨fault, rfl⟩, _⟩ | ⟨body, rfl, rfl⟩⟩⟩⟩ := pipeline.transform_frame reached
  · rw [moved] at told
    cases told
  · rw [moved] at told
    cases told
  · rw [moved] at told
    cases told
  · exact ⟨heads, decl, tails, before, spec, after, fields, front, function, back, body, located,
      exchanged, by rw [moved]⟩

end Pipeline

/-! ## Structs that are local -/

namespace File

/-- The names in the bodies of the functions of a file. -/
def bodyNames (file : File) : List (Option (List String)) :=
  file.funcDecls.map fun decl => decl.body.map fun body => body.idents.map (·.name)

theorem bodies_ne {file other : File} (differ : (file.bodyNames == other.bodyNames) = false) :
    file.funcDecls.map (·.body) ≠ other.funcDecls.map (·.body) := by
  intro same
  have shown := congrArg (List.map (Option.map fun body => body.idents.map (·.name))) same
  rw [List.map_map, List.map_map] at shown
  exact beq_eq_false_iff_ne.1 differ shown

end File

/-- The type declarations in the type of an entry. -/
def Spec.innerDecls : Spec → List GenDecl
  | .type spec => spec.type.collect (fun _ => []) fun decl =>
      if decl.keyword = .types then some [decl] else none
  | _ => []

namespace Pipeline

/-- A struct in the body of a function is changed there where no constructor is found and where the
constructor cannot be wrapped.  A struct inside the declaration of another type is not found. -/
theorem transform_frame_local :
    (∃ (pipeline : Pipeline) (source moved : Source), source.IsRead ∧
      pipeline.transform source = (.ok none, moved) ∧
      (∀ decl ∈ source.file.funcDecls, decl.matchesName pipeline.functions = false) ∧
      moved.file.funcDecls.map (·.body) ≠ source.file.funcDecls.map (·.body)) ∧
    (∃ (pipeline : Pipeline) (source moved : Source) (fault : Fault), source.IsRead ∧
      pipeline.transform source = (.error fault, moved) ∧
      moved.file.funcDecls.map (·.body) ≠ source.file.funcDecls.map (·.body)) ∧
    ∃ (pipeline : Pipeline) (source : Source), source.IsRead ∧
      (∃ outer ∈ source.file.typeDecls, ∃ entry ∈ outer.specs, ∃ inner ∈ entry.innerDecls,
        (inner.structure? pipeline.structures).isSome) ∧
      pipeline.transform source = (.ok none, source.renamePackage pipeline.package) := by
  refine ⟨?_, ?_, ?_⟩
  · obtain ⟨pipeline, source, isRead, told⟩ := exists_isRead
      "package p\nfunc h() { type F struct{ n int } }"
      (fun pipeline source => ((pipeline.transform source).1.toOption,
        source.file.funcDecls.any (·.matchesName pipeline.functions),
        (pipeline.transform source).2.file.bodyNames == source.file.bodyNames))
      (show _ = some (_, some none, false, false) by decide +kernel)
    generalize isMoved : pipeline.transform source = result at told
    obtain ⟨outcome, moved⟩ := result
    simp only [Prod.mk.injEq] at told
    obtain ⟨isNone, unmatched, differ⟩ := told
    cases outcome with
    | error fault => cases isNone
    | ok outcome =>
        cases isNone
        refine ⟨pipeline, source, moved, isRead, isMoved, ?_, File.bodies_ne differ⟩
        simpa using unmatched
  · obtain ⟨pipeline, source, isRead, told⟩ := exists_isRead
      "package p\nfunc N() { type F struct{ n int } }"
      (fun pipeline source => ((pipeline.transform source).1.toOption,
        (pipeline.transform source).2.file.bodyNames == source.file.bodyNames))
      (show _ = some (_, none, false) by decide +kernel)
    generalize isMoved : pipeline.transform source = result at told
    obtain ⟨outcome, moved⟩ := result
    simp only [Prod.mk.injEq] at told
    obtain ⟨isNone, differ⟩ := told
    cases outcome with
    | error fault => exact ⟨pipeline, source, moved, fault, isRead, isMoved, File.bodies_ne differ⟩
    | ok outcome => cases isNone
  · obtain ⟨pipeline, source, isRead, told⟩ := exists_isRead
      "package p\ntype T [f(func() { type F struct{ n int } })]int"
      (fun pipeline source => ((source.file.structure? pipeline.structures).isNone,
        source.file.typeDecls.any fun outer => outer.specs.any fun entry =>
          entry.innerDecls.any fun inner => (inner.structure? pipeline.structures).isSome))
      (show _ = some (_, true, true) by decide +kernel)
    obtain ⟨unfound, inner⟩ := Prod.mk.inj told
    have renamed : (source.renamePackage pipeline.package).file.structure? pipeline.structures =
        none := Option.isNone_iff_eq_none.1 unfound
    refine ⟨pipeline, source, isRead, ?_, ?_⟩
    · simpa only [List.any_eq_true] using inner
    · rw [transform, wrapStructure_of_none renamed]

end Pipeline

end GoMend
