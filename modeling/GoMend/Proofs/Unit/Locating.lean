import GoMend.Proofs.Repair.Replacement
import GoMend.Unit.Body
import GoMend.Unit.Locate

/-!
# The function that a pattern finds

Of the functions whose names match a pattern the last one is meant.  An edit puts another
function in its place, and everything around it stays as it is.
-/

namespace GoMend

namespace File

variable {α : Type} {pattern : Matcher} {edit : FuncDecl → α × FuncDecl} {file : File}

/-- The last function among the declarations of a file whose name matches, between the
declarations before and behind it. -/
structure LastFunction (pattern : Matcher) (file : File) (heads : List Decl) (decl : FuncDecl)
    (tails : List Decl) : Prop where
  sections : file.decls = heads ++ .func decl :: tails
  isMatch : decl.matchesName pattern
  last : ∀ later, .func later ∈ tails → later.matchesName pattern = false

theorem mem_funcDecls {decl : FuncDecl} : decl ∈ file.funcDecls ↔ .func decl ∈ file.decls := by
  rw [funcDecls, List.mem_filterMap]
  constructor
  · rintro ⟨other, member, isFunc⟩
    cases other with
    | gen => cases isFunc
    | func other => exact Option.some.inj isFunc ▸ member
  · exact fun member => ⟨_, member, rfl⟩

theorem editLastFunction?_eq_none {decls : List Decl}
    (absent : editLastFunction? pattern edit decls = none) :
    ∀ decl, .func decl ∈ decls → decl.matchesName pattern = false := by
  induction decls with
  | nil =>
      intro decl member
      cases member
  | cons first rest ih =>
      cases found : editLastFunction? pattern edit rest with
      | some edited => simp [editLastFunction?, found] at absent
      | none =>
          intro decl member
          rcases List.mem_cons.1 member with rfl | inRest
          · simpa [editLastFunction?, found] using absent
          · exact ih found decl inRest

/-- An edit is made to the last function whose name matches. -/
theorem editLastFunction?_eq_some {decls next : List Decl} {result : α}
    (edited : editLastFunction? pattern edit decls = some (result, next)) :
    ∃ heads decl tails, decls = heads ++ .func decl :: tails ∧ decl.matchesName pattern ∧
      (∀ later, .func later ∈ tails → later.matchesName pattern = false) ∧
      result = (edit decl).1 ∧ next = heads ++ .func (edit decl).2 :: tails := by
  induction decls generalizing next with
  | nil => cases edited
  | cons first rest ih =>
      cases found : editLastFunction? pattern edit rest with
      | some editedRest =>
          simp only [editLastFunction?, found, Option.some.injEq, Prod.mk.injEq] at edited
          obtain ⟨rfl, rfl⟩ := edited
          obtain ⟨heads, decl, tails, rfl, isMatch, last, same, rest⟩ := ih found
          exact ⟨first :: heads, decl, tails, rfl, isMatch, last, same, congrArg (first :: ·) rest⟩
      | none =>
          cases first with
          | gen decl => simp [editLastFunction?, found] at edited
          | func decl =>
              simp only [editLastFunction?, found, Option.ite_none_right_eq_some,
                Option.some.injEq, Prod.mk.injEq] at edited
              obtain ⟨isMatch, rfl, rfl⟩ := edited
              exact ⟨[], decl, rest, rfl, isMatch, editLastFunction?_eq_none found, rfl, rfl⟩

theorem editFunction?_eq_none (absent : file.editFunction? pattern edit = none) :
    ∀ decl ∈ file.funcDecls, decl.matchesName pattern = false := fun decl member =>
  editLastFunction?_eq_none (Option.map_eq_none_iff.1 absent) decl (mem_funcDecls.1 member)

theorem editFunction?_eq_some {next : File} {result : α}
    (edited : file.editFunction? pattern edit = some (result, next)) :
    ∃ heads decl tails, LastFunction pattern file heads decl tails ∧ result = (edit decl).1 ∧
      next = { file with decls := heads ++ .func (edit decl).2 :: tails } := by
  obtain ⟨⟨_, decls⟩, editedDecls, same⟩ := Option.map_eq_some_iff.1 edited
  cases same
  obtain ⟨heads, decl, tails, sections, isMatch, last, rfl, rfl⟩ :=
    editLastFunction?_eq_some editedDecls
  exact ⟨heads, decl, tails, ⟨sections, isMatch, last⟩, rfl, rfl⟩

/-- The last function whose name matches is edited where it stands. -/
theorem LastFunction.editFunction? {heads tails : List Decl} {decl : FuncDecl}
    (found : LastFunction pattern file heads decl tails) :
    file.editFunction? pattern edit =
      some ((edit decl).1, { file with decls := heads ++ .func (edit decl).2 :: tails }) := by
  have inTails : ∀ {tails}, (∀ later, .func later ∈ tails → later.matchesName pattern = false) →
      editLastFunction? pattern edit tails = none := by
    intro tails last
    induction tails with
    | nil => rfl
    | cons first rest ih =>
        have nothing := ih fun later member => last later (List.mem_cons_of_mem _ member)
        cases first with
        | gen decl => simp [editLastFunction?, nothing]
        | func decl => simp [editLastFunction?, nothing, last decl List.mem_cons_self]
  have edited : ∀ heads, editLastFunction? pattern edit (heads ++ .func decl :: tails) =
      some ((edit decl).1, heads ++ .func (edit decl).2 :: tails) := by
    intro heads
    induction heads with
    | nil => simp [editLastFunction?, inTails found.last, found.isMatch]
    | cons first rest ih => simp [editLastFunction?, ih]
  rw [File.editFunction?, found.sections, edited]
  rfl

theorem LastFunction.function? {heads tails : List Decl} {decl : FuncDecl}
    (found : LastFunction pattern file heads decl tails) :
    file.function? pattern = some decl := by
  have nothing : (funcDecls { file with decls := tails }).filter (·.matchesName pattern) = [] := by
    rw [List.filter_eq_nil_iff]
    intro later member
    simp [found.last later (mem_funcDecls.1 member)]
  have funcDecls_eq : file.funcDecls = funcDecls { file with decls := heads } ++
      decl :: funcDecls { file with decls := tails } := by
    rw [funcDecls, found.sections, List.filterMap_append]
    rfl
  rw [File.function?, funcDecls_eq, List.filter_append, List.filter_cons_of_pos found.isMatch,
    nothing]
  simp

/-- The functions keep their names where type entries are replaced. -/
theorem unmatched_of_mapTypes {onType : TypeSpec → Option TypeSpec}
    (unmatched : ∀ decl ∈ (file.mapTypes onType).funcDecls, decl.matchesName pattern = false) :
    ∀ decl ∈ file.funcDecls, decl.matchesName pattern = false := by
  intro decl member
  apply unmatched (decl.rebuild id onType)
  exact mem_funcDecls.2 (List.mem_map_of_mem (f := (·.rebuild id onType)) (mem_funcDecls.1 member))

/-- What is found in a file with type entries replaced was found in the file, at the same place. -/
theorem LastFunction.of_mapTypes {onType : TypeSpec → Option TypeSpec} {heads tails : List Decl}
    {edited : FuncDecl} (found : (file.mapTypes onType).LastFunction pattern heads edited tails) :
    ∃ before decl after, file.LastFunction pattern before decl after ∧
      before.length = heads.length ∧ edited = decl.rebuild id onType := by
  obtain ⟨before, rest, sections, rfl, isRest⟩ := List.map_eq_append_iff.1 found.sections
  obtain ⟨first, after, rfl, isFunction, rfl⟩ := List.map_eq_cons_iff.1 isRest
  cases first with
  | gen decl => cases isFunction
  | func decl =>
      cases isFunction
      refine ⟨before, decl, after, ⟨sections, found.isMatch, fun later member => ?_⟩, by simp, rfl⟩
      exact found.last (later.rebuild id onType)
        (List.mem_map_of_mem (f := (·.rebuild id onType)) member)

section

variable {heads tails : List Decl} {decl : FuncDecl} (body : Block)
  (sections : file.decls = heads ++ .func decl :: tails)

include sections

/-- A file with another body of a function declares what it declared before. -/
theorem Keeps.withBody {original : File} (keeps : original.Keeps file) :
    original.Keeps { file with decls := heads ++ .func (decl.withBody body) :: tails } := by
  apply keeps.trans_of_eq
  · simp [File.imports, sections]
  · simp [sections, PackageScope.declNames, FuncDecl.withBody]
  · simp [sections, PackageScope.declTypes]

omit sections in
/-- Resolution meets a body among the names of receiver, parameters and results. -/
theorem mem_visits_body {scope : PackageScope} {visit : Visit}
    (met : visit ∈ body.visits scope (Env.bindAll [] (decl.lists.flatMap FieldList.names))) :
    visit ∈ File.visits scope
      { file with decls := heads ++ .func (decl.withBody body) :: tails } := by
  apply List.mem_flatMap.2
  exact ⟨_, List.mem_append_right _ List.mem_cons_self, List.mem_append_right _ met⟩

/-- What resolution meets with another body of a function stands in this body or was met
before. -/
theorem mem_visits_withBody {scope : PackageScope} {visit : Visit}
    (met : visit ∈ File.visits scope
      { file with decls := heads ++ .func (decl.withBody body) :: tails }) :
    visit ∈ file.visits scope ∨
      visit ∈ body.visits scope (Env.bindAll [] (decl.lists.flatMap FieldList.names)) := by
  obtain ⟨other, member, inOther⟩ := List.mem_flatMap.1 met
  have unchanged : other ∈ file.decls → visit ∈ file.visits scope :=
    fun member => List.mem_flatMap.2 ⟨other, member, inOther⟩
  rw [sections] at unchanged
  rcases List.mem_append.1 member with inHeads | inRest
  · exact .inl (unchanged (List.mem_append_left _ inHeads))
  rcases List.mem_cons.1 inRest with rfl | inTails
  · rcases List.mem_append.1 inOther with inSignature | inBody
    · left
      apply List.mem_flatMap.2
      refine ⟨.func decl, ?_, List.mem_append_left _ inSignature⟩
      rw [sections]
      exact List.mem_append_right _ List.mem_cons_self
    · exact .inr inBody
  · exact .inl (unchanged (List.mem_append_right _ (List.mem_cons_of_mem _ inTails)))

end

end File

end GoMend
