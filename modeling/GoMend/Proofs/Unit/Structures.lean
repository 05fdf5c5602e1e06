import Mathlib.Data.List.Basic
import Mathlib.Data.List.Nodup
import GoMend.Proofs.Names.Document
import GoMend.Proofs.Unit.Parts
import GoMend.Unit.Body

/-!
# The struct that a pattern finds

Of the type declarations of a file the last one with a matching struct is meant.  Where the name
of this struct is the only one at its place, an edit of the struct changes one declaration and
leaves everything else as it is, and the pattern finds the edited struct again.
-/

namespace GoMend

variable {pattern : Matcher} {spec : TypeSpec} {offset : Option Nat}

/-! ## The entry in its declaration -/

namespace TypeSpec

/-- Whether the entry is a struct whose name matches. -/
def Fits (pattern : Matcher) (spec : TypeSpec) : Prop :=
  spec.isStruct ∧ pattern.occursIn spec.name.name

/-- No name in the type stands at the place of the declared name. -/
def Solitary (spec : TypeSpec) : Prop :=
  ∀ ident ∈ spec.type.idents, ident.offset ≠ spec.name.offset

/-- An entry that may take the place of another one. -/
structure Replaces (edited spec : TypeSpec) : Prop where
  name : edited.name = spec.name
  isStruct : edited.isStruct
  solitary : edited.Solitary

theorem Replaces.fits {edited : TypeSpec} (replaces : edited.Replaces spec)
    (fits : spec.Fits pattern) : edited.Fits pattern :=
  ⟨replaces.isStruct, replaces.name ▸ fits.2⟩

end TypeSpec

namespace GenDecl

variable {decl : GenDecl} {before after : List Spec}

/-- The first entry of a declaration that fits, where no other name of the declaration stands
at the place of its name. -/
structure Declares (pattern : Matcher) (decl : GenDecl) (before : List Spec) (spec : TypeSpec)
    (after : List Spec) : Prop where
  sections : decl.specs = before ++ .type spec :: after
  fits : spec.Fits pattern
  first : ∀ earlier, .type earlier ∈ before → ¬earlier.Fits pattern
  apart : ∀ other ∈ before ++ after, ∀ ident ∈ other.idents, ident.offset ≠ spec.name.offset
  solitary : spec.Solitary

theorem structure?_eq_none_iff :
    decl.structure? pattern = none ↔ ∀ entry, .type entry ∈ decl.specs → ¬entry.Fits pattern := by
  rw [structure?, List.findSome?_eq_none_iff]
  constructor
  · intro nothing entry member fits
    have passed := nothing _ member
    simp only [ite_eq_right_iff, reduceCtorEq, imp_false, Bool.and_eq_true] at passed
    exact passed fits
  · intro nothing other member
    cases other with
    | imported | value => rfl
    | type other =>
        simp only [ite_eq_right_iff, reduceCtorEq, imp_false, Bool.and_eq_true]
        exact nothing other member

theorem structure?_eq_some_iff : decl.structure? pattern = some spec ↔
    ∃ before after, decl.specs = before ++ .type spec :: after ∧ spec.Fits pattern ∧
      ∀ earlier, .type earlier ∈ before → ¬earlier.Fits pattern := by
  rw [structure?, List.findSome?_eq_some_iff]
  constructor
  · rintro ⟨before, found, after, sections, isFound, earlier⟩
    have nothing : { decl with specs := before }.structure? pattern = none :=
      List.findSome?_eq_none_iff.2 earlier
    cases found with
    | imported | value => cases isFound
    | type found =>
        simp only [Option.ite_none_right_eq_some, Bool.and_eq_true, Option.some.injEq] at isFound
        obtain ⟨fits, rfl⟩ := isFound
        exact ⟨before, after, sections, fits, structure?_eq_none_iff.1 nothing⟩
  · rintro ⟨before, after, sections, fits, first⟩
    have nothing : { decl with specs := before }.structure? pattern = none :=
      structure?_eq_none_iff.2 first
    exact ⟨before, .type spec, after, sections, by simp [fits.1, fits.2],
      List.findSome?_eq_none_iff.1 nothing⟩

theorem Declares.structure? (declares : decl.Declares pattern before spec after) :
    decl.structure? pattern = some spec :=
  structure?_eq_some_iff.2 ⟨before, after, declares.sections, declares.fits, declares.first⟩

theorem Declares.mem_specs (declares : decl.Declares pattern before spec after) :
    .type spec ∈ decl.specs :=
  declares.sections ▸ List.mem_append_right _ List.mem_cons_self

theorem idents_eq_flatMap (decl : GenDecl) : decl.idents = decl.specs.flatMap (·.idents) := by
  obtain ⟨_, _, _, specs, _⟩ := decl
  change Spec.identsAll specs = _
  induction specs with
  | nil => rfl
  | cons first rest ih => exact congrArg (first.idents ++ ·) ih

theorem Declares.mem_idents (declares : decl.Declares pattern before spec after) :
    spec.name ∈ decl.idents := by
  rw [idents_eq_flatMap]
  refine List.mem_flatMap.2 ⟨.type spec, declares.mem_specs, ?_⟩
  obtain ⟨_, _, _, _, _⟩ := spec
  exact List.mem_cons_self

/-- Where the place of the name that the struct declares is taken once, no other name of the
declaration stands there. -/
theorem declares_of_count_le_one (found : decl.structure? pattern = some spec)
    (once : (decl.idents.map (·.offset)).count spec.name.offset ≤ 1) :
    ∃ before after, decl.Declares pattern before spec after := by
  obtain ⟨before, after, sections, fits, first⟩ := structure?_eq_some_iff.1 found
  have idents : (Spec.type spec).idents = spec.name :: spec.type.idents := by
    obtain ⟨_, _, _, _, _⟩ := spec
    rfl
  rw [idents_eq_flatMap, sections, List.flatMap_append, List.flatMap_cons, idents,
    List.cons_append, List.map_append, List.map_cons, List.count_append, List.count_cons_self,
    List.map_append, List.count_append] at once
  have absent : ∀ idents : List Ident, (idents.map (·.offset)).count spec.name.offset = 0 →
      ∀ ident ∈ idents, ident.offset ≠ spec.name.offset := fun _ none ident member same =>
    List.count_eq_zero.1 none (List.mem_map.2 ⟨ident, member, same⟩)
  have apartBefore := absent (before.flatMap (·.idents)) (by omega)
  have apartAfter := absent (after.flatMap (·.idents)) (by omega)
  refine ⟨before, after, sections, fits, first, ?_, absent _ (by omega)⟩
  intro other member ident inOther
  rcases List.mem_append.1 member with inBefore | inAfter
  · exact apartBefore ident (List.mem_flatMap.2 ⟨other, inBefore, inOther⟩)
  · exact apartAfter ident (List.mem_flatMap.2 ⟨other, inAfter, inOther⟩)

/-- An edit of the struct is all that an edit at its place does to the declaration. -/
theorem Declares.specs_rebuild {change : TypeSpec → TypeSpec}
    (declares : decl.Declares pattern before spec after) :
    (decl.rebuild id (TypeSpec.editAt spec.name.offset change)).specs =
      before ++ .type (change spec) :: after := by
  have unchanged : ∀ other ∈ before ++ after,
      other.rebuild id (TypeSpec.editAt spec.name.offset change) = other := fun other member =>
    (Spec.told _ _ other).unchanged_of_idents (declares.apart other member)
  have changed : (Spec.type spec).rebuild id (TypeSpec.editAt spec.name.offset change) =
      .type (change spec) := by
    simp [Spec.rebuild, TypeSpec.editAt]
  obtain ⟨unchangedBefore, unchangedAfter⟩ := List.forall_mem_append.1 unchanged
  obtain ⟨_, _, _, specs, _⟩ := decl
  have sections : specs = _ := declares.sections
  change Spec.rebuildAll id _ specs = _
  rw [Spec.rebuildAll_eq_map, sections, List.map_append, List.map_cons, changed,
    List.map_congr_left unchangedBefore, List.map_congr_left unchangedAfter, List.map_id',
    List.map_id']

theorem Declares.rebuild {change : TypeSpec → TypeSpec}
    (declares : decl.Declares pattern before spec after)
    (replaces : (change spec).Replaces spec) :
    (decl.rebuild id (TypeSpec.editAt spec.name.offset change)).Declares pattern before
      (change spec) after where
  sections := declares.specs_rebuild
  fits := replaces.fits declares.fits
  first := declares.first
  apart := replaces.name ▸ declares.apart
  solitary := replaces.solitary

theorem Declares.rebuild_eq_replace {change : TypeSpec → TypeSpec}
    (declares : decl.Declares pattern before spec after) :
    decl.rebuild id (TypeSpec.editAt spec.name.offset change) =
      { decl with specs := before ++ .type (change spec) :: after } := by
  have specs := @Declares.specs_rebuild _ _ _ _ _ change declares
  obtain ⟨doc, keyword, grouped, _, start⟩ := decl
  exact congrArg (GenDecl.mk doc keyword grouped · start) specs

/-- An edit that keeps the struct keeps the declaration. -/
theorem Declares.rebuild_eq {change : TypeSpec → TypeSpec}
    (declares : decl.Declares pattern before spec after) (same : change spec = spec) :
    decl.rebuild id (TypeSpec.editAt spec.name.offset change) = decl := by
  rw [declares.rebuild_eq_replace, same, ← declares.sections]
  obtain ⟨_, _, _, _, _⟩ := decl
  rfl

end GenDecl

/-! ## The declaration in a file -/

/-- The type declarations of a top-level declaration. -/
abbrev Decl.typeDecls (decl : Decl) : List GenDecl :=
  decl.collect (fun _ => []) fun decl => if decl.keyword = .types then some [decl] else none

/-- The struct that the pattern finds in a part. -/
def Part.structure? (pattern : Matcher) : Part → Option TypeSpec
  | .name _ => none
  | .types decl => decl.structure? pattern

theorem Part.Apart.edit_eq {part : Part} {change : TypeSpec → TypeSpec}
    (apart : part.Apart offset) : part.edit offset change = part := by
  cases part with
  | name ident => rfl
  | types decl => exact congrArg Part.types ((GenDecl.told _ _ decl).unchanged_of_idents apart)

namespace File

variable {file : File} {parts heads tails : List Part} {decl : GenDecl}

theorem idents_eq_parts (file : File) : file.idents = file.parts.flatMap Part.idents :=
  (File.told none id file).through piecewise_idents

theorem typeDecls_eq_parts (file : File) : file.typeDecls = file.parts.flatMap Part.typeDecls :=
  (File.told none id file).through piecewise_typeDecls

/-- What the pattern finds it finds in the last part that has a matching struct. -/
theorem structure?_eq_getLast? : file.structure? pattern =
    (file.parts.filterMap (·.structure? pattern)).getLast? := by
  rw [File.structure?, typeDecls_eq_parts]
  congr 1
  induction file.parts with
  | nil => rfl
  | cons first rest ih =>
      rw [List.flatMap_cons, List.filterMap_append, ih]
      cases first with
      | name => rfl
      | types decl =>
          simp only [Part.typeDecls, Part.structure?, List.filterMap_cons, List.filterMap_nil]
          cases decl.structure? pattern <;> rfl

/-- The last struct that the pattern finds among parts, where no other name stands at the place
of the name that it declares. -/
structure Locates (pattern : Matcher) (parts heads : List Part) (spec : TypeSpec)
    (decl : GenDecl) (tails : List Part) : Prop where
  sections : parts = heads ++ .types decl :: tails
  declares : ∃ before after, decl.Declares pattern before spec after
  last : ∀ part ∈ tails, part.structure? pattern = none
  apart : ∀ part ∈ heads ++ tails, part.Apart spec.name.offset

theorem Locates.structure? (locates : Locates pattern file.parts heads spec decl tails) :
    file.structure? pattern = some spec := by
  obtain ⟨before, after, declares⟩ := locates.declares
  have found : (Part.types decl).structure? pattern = some spec := declares.structure?
  have nothing : tails.filterMap (·.structure? pattern) = [] :=
    List.filterMap_eq_nil_iff.2 locates.last
  rw [structure?_eq_getLast?, locates.sections, List.filterMap_append]
  simp [found, nothing]

/-- Where the place of the name that the struct declares is taken once, no other name of the file
stands there. -/
theorem locates_of_count_le_one (found : file.structure? pattern = some spec)
    (once : (file.idents.map (·.offset)).count spec.name.offset ≤ 1) :
    ∃ heads decl tails, Locates pattern file.parts heads spec decl tails := by
  rw [structure?_eq_getLast?, List.getLast?_filterMap, List.findSome?_eq_some_iff] at found
  obtain ⟨later, part, earlier, reversed, isFound, last⟩ := found
  have sections : file.parts = earlier.reverse ++ part :: later.reverse := by
    rw [← List.reverse_reverse file.parts, reversed]
    simp
  cases part with
  | name ident => cases isFound
  | types decl =>
      have ofDecl : (Part.types decl).idents = decl.idents := rfl
      rw [idents_eq_parts, sections, List.flatMap_append, List.flatMap_cons, ofDecl,
        List.map_append, List.map_append, List.count_append, List.count_append] at once
      have own : (decl.idents.map (·.offset)).count spec.name.offset ≤ 1 := by omega
      obtain ⟨before, after, declares⟩ := GenDecl.declares_of_count_le_one isFound own
      have place : 0 < (decl.idents.map (·.offset)).count spec.name.offset :=
        List.count_pos_iff.2 (List.mem_map_of_mem declares.mem_idents)
      have absent : ∀ {parts : List Part},
          ((parts.flatMap Part.idents).map (·.offset)).count spec.name.offset = 0 →
            ∀ part ∈ parts, part.Apart spec.name.offset :=
        fun none part member ident inPart same => List.count_eq_zero.1 none
          (List.mem_map.2 ⟨ident, List.mem_flatMap.2 ⟨part, member, inPart⟩, same⟩)
      refine ⟨earlier.reverse, decl, later.reverse, sections, ⟨before, after, declares⟩, ?_, ?_⟩
      · intro part member
        exact last part (List.mem_reverse.1 member)
      · exact List.forall_mem_append.2 ⟨absent (by omega), absent (by omega)⟩

section

variable {change : TypeSpec → TypeSpec}
  (locates : Locates pattern file.parts heads spec decl tails)

include locates

theorem Locates.not_apart : ¬(Part.types decl).Apart spec.name.offset := by
  obtain ⟨_, _, declares⟩ := locates.declares
  intro apart
  exact apart spec.name declares.mem_idents rfl

theorem Locates.outside : Outside spec.name.offset file.parts := by
  rw [locates.sections]
  intro ident member
  have elsewhere : Part.name ident ∈ heads ++ tails := by simpa using member
  exact locates.apart _ elsewhere ident List.mem_cons_self

/-- An edit at the place of the struct changes the declaration that it stands in. -/
theorem Locates.parts_editTypeAt : (file.editTypeAt spec.name.offset change).parts =
    heads ++ .types (decl.rebuild id (TypeSpec.editAt spec.name.offset change)) :: tails := by
  have unchanged : ∀ part ∈ heads ++ tails, part.edit spec.name.offset change = part :=
    fun part member => (locates.apart part member).edit_eq
  obtain ⟨unchangedHeads, unchangedTails⟩ := List.forall_mem_append.1 unchanged
  have edited : (file.editTypeAt spec.name.offset change).parts =
      file.parts.map (Part.edit spec.name.offset change) :=
    (File.told spec.name.offset change file).edited locates.outside
  rw [edited, locates.sections, List.map_append, List.map_cons, List.map_congr_left unchangedHeads,
    List.map_congr_left unchangedTails, List.map_id', List.map_id']
  rfl

/-- The declaration that an edit of the struct changes, among all type declarations. -/
theorem Locates.typeDecls : file.typeDecls =
    heads.flatMap Part.typeDecls ++ decl :: tails.flatMap Part.typeDecls := by
  rw [typeDecls_eq_parts, locates.sections, List.flatMap_append, List.flatMap_cons]
  rfl

theorem Locates.typeDecls_editTypeAt : (file.editTypeAt spec.name.offset change).typeDecls =
    heads.flatMap Part.typeDecls ++
      decl.rebuild id (TypeSpec.editAt spec.name.offset change) ::
        tails.flatMap Part.typeDecls := by
  rw [typeDecls_eq_parts, locates.parts_editTypeAt, List.flatMap_append, List.flatMap_cons]
  rfl

/-- The pattern finds the edited struct where it found the struct. -/
theorem Locates.edited (replaces : (change spec).Replaces spec) :
    Locates pattern (file.editTypeAt spec.name.offset change).parts heads (change spec)
      (decl.rebuild id (TypeSpec.editAt spec.name.offset change)) tails where
  sections := locates.parts_editTypeAt
  declares := by
    obtain ⟨before, after, declares⟩ := locates.declares
    exact ⟨before, after, declares.rebuild replaces⟩
  last := locates.last
  apart := replaces.name ▸ locates.apart

/-- An edit that keeps the struct keeps the file. -/
theorem Locates.edited_eq (same : change spec = spec) :
    file.editTypeAt spec.name.offset change = file := by
  apply (File.told spec.name.offset change file).unchanged
  change Fixed spec.name.offset change file.parts
  rw [locates.sections]
  intro part member
  by_cases isDecl : part = .types decl
  · obtain ⟨before, after, declares⟩ := locates.declares
    exact .inr ⟨decl, isDecl, declares.rebuild_eq same⟩
  · have elsewhere : part ∈ heads ++ tails := by simpa [isDecl] using member
    exact .inl (locates.apart part elsewhere)

end

/-- The parts before and behind a body, which stay where the body is replaced. -/
theorem exists_parts {before after : List Decl} {function : FuncDecl} {old : Block}
    (sections : file.decls = before ++ .func function :: after)
    (hasBody : function.body = some old) :
    ∃ left right, file.parts = left ++ (old.parts ++ right) ∧ ∀ body : Block,
      { file with decls := before ++ Decl.func (function.withBody body) :: after }.parts =
        left ++ (body.parts ++ right) := by
  let left := Part.name file.package :: (before.flatMap (·.parts) ++
    (function.receiver.elim [] (·.collect (fun ident => [Part.name ident]) Part.ofDecl?) ++
      [Part.name function.name] ++
        function.signature.collect (fun ident => [Part.name ident]) Part.ofDecl?))
  have parts : ∀ body : Block,
      { file with decls := before ++ Decl.func (function.withBody body) :: after }.parts =
        left ++ (body.parts ++ after.flatMap (·.parts)) := by
    intro body
    cases receiver : function.receiver <;>
      simp only [File.parts, File.collect, List.flatMap_append, List.flatMap_cons, Decl.parts,
        Decl.collect, FuncDecl.collect, FuncDecl.withBody, List.append_assoc, List.cons_append,
        List.nil_append, Block.parts, left, receiver, Option.elim]
  have unchanged : function.withBody old = function := by
    rw [FuncDecl.withBody, ← hasBody]
  refine ⟨left, after.flatMap (·.parts), ?_, parts⟩
  rw [← parts old, unchanged, ← sections]

/-- A declaration that is not in the middle of a row stands before or behind it. -/
theorem sections_around {α : Type} {a : α} {heads tails left middle right : List α}
    (absent : a ∉ middle) (same : heads ++ a :: tails = left ++ (middle ++ right)) :
    (∃ between, left = heads ++ a :: between ∧ tails = between ++ (middle ++ right)) ∨
      ∃ between, right = between ++ a :: tails ∧ heads = left ++ (middle ++ between) := by
  rcases List.append_eq_append_iff.1 same with ⟨rest, isLeft, isRest⟩ | ⟨rest, rfl, isRest⟩
  · cases rest with
    | nil =>
        cases middle with
        | nil => exact .inr ⟨[], by simpa using isRest.symm, by simpa using isLeft.symm⟩
        | cons first middle =>
            cases isRest
            exact absurd List.mem_cons_self absent
    | cons first rest =>
        obtain ⟨rfl, rfl⟩ := List.cons.inj isRest
        exact .inl ⟨rest, isLeft, rfl⟩
  · rcases List.append_eq_append_iff.1 isRest with ⟨between, rfl, isRight⟩ | ⟨between, rfl, isTail⟩
    · exact .inr ⟨between, isRight, rfl⟩
    · cases between with
      | nil => exact .inr ⟨[], by simpa using isTail.symm, by simp⟩
      | cons first between =>
          cases isTail
          exact absurd (List.mem_append_right _ List.mem_cons_self) absent

section

variable {before after : List Decl} {function : FuncDecl} {old new : Block}
  (locates : Locates pattern file.parts heads spec decl tails)
  (sections : file.decls = before ++ .func function :: after)
  (hasBody : function.body = some old) (elsewhere : .types decl ∉ old.parts)

include locates sections hasBody elsewhere

/-- No name of a body that does not declare the struct stands at its place. -/
theorem Locates.apart_body : ∀ part ∈ old.parts, part.Apart spec.name.offset := by
  obtain ⟨left, right, same, _⟩ := exists_parts sections hasBody
  intro part inBody
  have inFile : part ∈ heads ++ .types decl :: tails := by
    rw [← locates.sections, same]
    exact List.mem_append_right _ (List.mem_append_left _ inBody)
  have other : part ≠ .types decl := fun isDecl => elsewhere (isDecl ▸ inBody)
  exact locates.apart part (by simpa [other] using inFile)

/-- The pattern finds the same struct where a body that does not declare it is replaced by one
without other declarations. -/
theorem Locates.withBody (kept : ∀ part ∈ new.parts,
      part ∈ old.parts ∨ ∃ ident, part = .name ident ∧ ident.offset ≠ spec.name.offset) :
    ∃ heads' tails', Locates pattern
      { file with decls := before ++ Decl.func (function.withBody new) :: after }.parts
      heads' spec decl tails' := by
  obtain ⟨left, right, same, parts⟩ := exists_parts sections hasBody
  have inherited : ∀ {holds : Part → Prop}, (∀ part ∈ old.parts, holds part) →
      (∀ ident : Ident, ident.offset ≠ spec.name.offset → holds (.name ident)) →
      ∀ part ∈ new.parts, holds part := by
    intro holds ofOld ofName part member
    rcases kept part member with isOld | ⟨ident, rfl, place⟩
    · exact ofOld part isOld
    · exact ofName ident place
  have named : ∀ ident : Ident, ident.offset ≠ spec.name.offset →
      (Part.name ident).Apart spec.name.offset := by
    intro ident place other member
    rw [List.mem_singleton.1 member]
    exact place
  have last := locates.last
  have apart := locates.apart
  rw [parts new]
  rcases sections_around elsewhere (locates.sections.symm.trans same) with
    ⟨between, rfl, rfl⟩ | ⟨between, rfl, rfl⟩
  · simp only [List.forall_mem_append] at last apart
    obtain ⟨apartHeads, apartBetween, apartOld, apartRight⟩ := apart
    refine ⟨heads, between ++ (new.parts ++ right), by simp, locates.declares, ?_, ?_⟩
    · simp only [List.forall_mem_append]
      exact ⟨last.1, inherited last.2.1 fun _ _ => rfl, last.2.2⟩
    · simp only [List.forall_mem_append]
      exact ⟨apartHeads, apartBetween, inherited apartOld named, apartRight⟩
  · simp only [List.forall_mem_append] at apart
    obtain ⟨⟨apartLeft, apartOld, apartBetween⟩, apartTails⟩ := apart
    refine ⟨left ++ (new.parts ++ between), tails, by simp, locates.declares, last, ?_⟩
    simp only [List.forall_mem_append]
    exact ⟨⟨apartLeft, inherited apartOld named, apartBetween⟩, apartTails⟩

end

end File

end GoMend
