import GoMend.Proofs.Wrap.Hygiene

/-!
# The managed field in a wrapped constructor

A struct with the managed field loses it for the wrapper that manages it.  Its constructor
builds a literal that may still set the field: one that is returned loses its first element
under the key, and one that is assigned before it is returned keeps them all.
-/

namespace GoMend

namespace Expr

/-- How many elements stand under the key. -/
def keyed (key : String) (elements : List Expr) : Nat :=
  elements.countP (hasKey key)

theorem keyed_eq_zero {key : String} {elements : List Expr} :
    keyed key elements = 0 ↔ ∀ element ∈ elements, hasKey key element = false := by
  simp [keyed, List.countP_eq_zero]

theorem WithoutKey.keyed {key : String} {elements kept : List Expr}
    (without : WithoutKey key elements kept) :
    Expr.keyed key kept = Expr.keyed key elements - 1 := by
  cases without with
  | absent absent => rw [keyed_eq_zero.2 absent]
  | @removed before after element earlier isKeyed =>
      have none_ : before.countP (hasKey key) = 0 := keyed_eq_zero.2 earlier
      simp [Expr.keyed, List.countP_append, none_, isKeyed]

end Expr

namespace Wrapper

/-- What the expression that a body builds keeps of the elements under the managed key.  A body
that returns no name builds a literal that it returns, with one of them less.  A body that
returns a name builds what it assigns first, with all of them. -/
structure KeepsManaged (body : Block) (op : UnaryOp) (operand : Expr) : Prop where
  returned : ∀ results, body.FirstReturns results → (∀ result ∈ results, result.ident? = none) →
    ∃ type elements kept multiline, operand = .composite type kept multiline ∧
      .unary op (.composite type elements multiline) ∈ results ∧
        Expr.keyed managedField kept = Expr.keyed managedField elements - 1
  assigned : ∀ results name, body.FirstReturns results → .ident name ∈ results →
    ∃ targets assignOp values, body.FirstAssigns targets assignOp (.unary op operand :: values)

theorem Builds.keepsManaged {body : Block} {init : Expr} (builds : Builds body init) :
    ∃ op operand, init = .unary op operand ∧ KeepsManaged body op operand := by
  have same : ∀ {one other}, body.FirstReturns one → body.FirstReturns other → one = other := by
    intro one other first second
    exact Option.some.inj
      ((Block.firstReturn?_eq_some_iff.2 first).symm.trans (Block.firstReturn?_eq_some_iff.2 second))
  cases builds with
  | @returned before after elements kept op type multiline returns plain earlier without =>
      refine ⟨op, _, rfl, ?_, ?_⟩
      · intro results first _
        obtain rfl := same returns first
        exact ⟨type, elements, kept, multiline, rfl, by simp, without.keyed⟩
      · intro results name first member
        obtain rfl := same returns first
        rcases List.mem_append.1 member with inBefore | inRest
        · cases plain _ (List.mem_append_left _ inBefore)
        · rcases List.mem_cons.1 inRest with isUnary | inAfter
          · cases isUnary
          · cases plain _ (List.mem_append_right _ inAfter)
  | assigned returns member first =>
      refine ⟨_, _, rfl, ?_, ?_⟩
      · intro results other plain
        obtain rfl := same returns other
        cases plain _ member
      · intro _ _ _ _
        exact ⟨_, _, _, first⟩

end Wrapper

namespace Pipeline

variable {pipeline : Pipeline} {source moved : Source} {record : Record}

/-- Which of the managed elements a wrapped constructor keeps in the literal whose address it
takes depends on whether the constructor that was found returned a name. -/
theorem transform_managed (transformed : pipeline.transform source = (.ok (some record), moved)) :
    ∃ heads decl tails present op operand,
      File.LastFunction pipeline.functions
        (pipeline.wrapStructure (source.renamePackage pipeline.package)).2.file heads decl tails ∧
      decl.body = some present ∧ Wrapper.KeepsManaged present op operand ∧
      moved.file.decls =
        heads ++ .func (decl.withBody (record.wrapper.body (.unary op operand))) :: tails := by
  rcases transform_eq_ok rfl transformed with ⟨nothing, _⟩ |
    ⟨found, heads, decl, tails, init, same, _, constructs, rfl⟩
  · cases nothing
  obtain rfl := Option.some.inj same
  obtain ⟨present, hasBody, builds⟩ := constructs.builds
  obtain ⟨op, operand, rfl, keeps⟩ := builds.keepsManaged
  exact ⟨heads, decl, tails, present, op, operand, constructs.found, hasBody, keeps, rfl⟩

/-- A struct and its constructor, both with the managed field. -/
def managedText (constructor : String) : String :=
  "package p\ntype F struct{ subAggregations, n int }\nfunc N() *F " ++ constructor

/-- The elements of the literals whose address is assigned first in a body. -/
def builtElements (decls : List Decl) : List Expr :=
  decls.flatMap fun
    | .func decl =>
        match decl.body.bind (·.firstAssignment?) with
        | some (_, _, [.unary .address (.composite _ elements _)]) => elements
        | _ => []
    | .gen _ => []

/-- A literal that is returned loses the managed element. -/
theorem transform_managed_returned :
    ∃ (pipeline : Pipeline) (source moved : Source) (record : Record) (present : Block)
        (op : UnaryOp) (operand : Expr),
      pipeline.transform source = (.ok (some record), moved) ∧ record.wrapper = .injectable ∧
        (builtElements moved.file.decls).map (Expr.hasKey Wrapper.managedField) = [false] ∧
        Wrapper.KeepsManaged present op operand := by
  have checked : (Pipeline.ofTexts .standard "p" "F" "N" "" "").toOption.bind (fun pipeline =>
      (Source.parse ⟨"a.go"⟩
        (managedText "{ return &F{subAggregations: 1, n: 2} }")).toOption.map fun source =>
          ((pipeline.transform source).1.toOption,
            (builtElements (pipeline.transform source).2.file.decls).map
              (Expr.hasKey Wrapper.managedField))) =
      some (some (some ⟨.injectable, "N"⟩), [false]) := by
    decide +kernel
  obtain ⟨pipeline, _, checked⟩ := Option.bind_eq_some_iff.1 checked
  obtain ⟨source, _, checked⟩ := Option.map_eq_some_iff.1 checked
  generalize isMoved : pipeline.transform source = result at checked
  obtain ⟨outcome, moved⟩ := result
  obtain ⟨isRecord, unkeyed⟩ := Prod.mk.inj checked
  cases outcome with
  | error fault => cases isRecord
  | ok outcome =>
      cases isRecord
      obtain ⟨_, _, _, present, op, operand, _, _, keeps, _⟩ := transform_managed isMoved
      exact ⟨pipeline, source, moved, _, present, op, operand, isMoved, rfl, unkeyed, keeps⟩

/-- A literal that is assigned to a name first, and returned by it, keeps the managed element
although the struct loses the field. -/
theorem transform_managed_assigned :
    ∃ (pipeline : Pipeline) (source moved : Source) (record : Record),
      pipeline.transform source = (.ok (some record), moved) ∧ record.wrapper = .injectable ∧
        ∃ element ∈ builtElements moved.file.decls,
          Expr.hasKey Wrapper.managedField element = true := by
  have checked : (Pipeline.ofTexts .standard "p" "F" "N" "" "").toOption.bind (fun pipeline =>
      (Source.parse ⟨"a.go"⟩
        (managedText "{ x := &F{subAggregations: 1, n: 2}; return x }")).toOption.map
          fun source =>
            ((pipeline.transform source).1.toOption,
              (builtElements (pipeline.transform source).2.file.decls).any
                (Expr.hasKey Wrapper.managedField))) =
      some (some (some ⟨.injectable, "N"⟩), true) := by
    decide +kernel
  obtain ⟨pipeline, _, checked⟩ := Option.bind_eq_some_iff.1 checked
  obtain ⟨source, _, checked⟩ := Option.map_eq_some_iff.1 checked
  generalize isMoved : pipeline.transform source = result at checked
  obtain ⟨outcome, moved⟩ := result
  obtain ⟨isRecord, keyed⟩ := Prod.mk.inj checked
  obtain ⟨element, member, isKeyed⟩ := List.any_eq_true.1 keyed
  cases outcome with
  | error fault => cases isRecord
  | ok outcome =>
      cases isRecord
      exact ⟨pipeline, source, moved, _, isMoved, rfl, element, member, isKeyed⟩

end Pipeline

end GoMend
