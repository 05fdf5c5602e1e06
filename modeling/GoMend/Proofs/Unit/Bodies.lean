import GoMend.Unit.Body

/-!
# Statements that stand directly in a body

What the queries on a body find, in terms of the statements: a query stops at the first
statement of its kind, and no statement of that kind stands before it.
-/

namespace GoMend

namespace Expr

/-- The same elements without the first one under the key, if there is one. -/
inductive WithoutKey (key : String) : List Expr → List Expr → Prop where
  | absent {elements : List Expr} :
      (∀ element ∈ elements, hasKey key element = false) → WithoutKey key elements elements
  | removed {before after : List Expr} {element : Expr} :
      (∀ earlier ∈ before, hasKey key earlier = false) → hasKey key element = true →
      WithoutKey key (before ++ element :: after) (before ++ after)

theorem dropKey_withoutKey (key : String) (elements : List Expr) :
    WithoutKey key elements (dropKey key elements) := by
  rcases List.exists_or_eq_self_of_eraseP (hasKey key) elements with same | found
  · have absent : ∀ element ∈ elements, hasKey key element = false := by
      intro element member
      simpa using List.eraseP_eq_self_iff.1 same element member
    rw [dropKey, same]
    exact .absent absent
  · obtain ⟨element, before, after, earlier, keyed, sections, rest⟩ := found
    rw [dropKey, rest, sections]
    apply WithoutKey.removed _ keyed
    intro other member
    simpa using earlier other member

theorem WithoutKey.eq_dropKey {key : String} {elements kept : List Expr}
    (without : WithoutKey key elements kept) : kept = dropKey key elements := by
  cases without with
  | absent absent =>
      symm
      apply List.eraseP_of_forall_not
      intro element member
      simp [absent element member]
  | removed earlier keyed =>
      rw [dropKey, List.eraseP_append_right _ (by simpa using earlier),
        List.eraseP_cons_of_pos keyed]

theorem ident?_eq_some_iff {expr : Expr} {name : Ident} :
    expr.ident? = some name ↔ expr = .ident name := by
  cases expr <;> simp [ident?]

theorem unary?_eq_some_iff {expr operand : Expr} {op : UnaryOp} :
    expr.unary? = some (op, operand) ↔ expr = .unary op operand := by
  cases expr <;> simp [unary?]

end Expr

namespace StmtKind

theorem results?_eq_some_iff {kind : StmtKind} {results : List Expr} :
    kind.results? = some results ↔ kind = .ret results := by
  cases kind <;> simp [results?]

theorem results?_eq_none_iff {kind : StmtKind} :
    kind.results? = none ↔ ∀ results, kind ≠ .ret results := by
  cases kind <;> simp [results?]

theorem assignment?_eq_some_iff {kind : StmtKind} {targets values : List Expr}
    {op : AssignOp} :
    kind.assignment? = some (targets, op, values) ↔ kind = .assign targets op values := by
  cases kind <;> simp [assignment?]

theorem assignment?_eq_none_iff {kind : StmtKind} :
    kind.assignment? = none ↔ ∀ targets op values, kind ≠ .assign targets op values := by
  cases kind <;> simp [assignment?]

end StmtKind

namespace Block

variable {body : Block} {results targets values : List Expr} {op : AssignOp}

/-- The first return statement directly in the body hands out the results. -/
def FirstReturns (body : Block) (results : List Expr) : Prop :=
  ∃ before stmt after, body.stmts = before ++ stmt :: after ∧ stmt.kind = .ret results ∧
    ∀ earlier ∈ before, ∀ others, earlier.kind ≠ .ret others

/-- The first assignment or short declaration directly in the body. -/
def FirstAssigns (body : Block) (targets : List Expr) (op : AssignOp) (values : List Expr) :
    Prop :=
  ∃ before stmt after, body.stmts = before ++ stmt :: after ∧
    stmt.kind = .assign targets op values ∧
    ∀ earlier ∈ before, ∀ others otherOp otherValues,
      earlier.kind ≠ .assign others otherOp otherValues

/-- A statement directly in the body assigns the value to the name, the two standing at
the same place on either side. -/
def Assigns (body : Block) (name : String) (value : Expr) : Prop :=
  ∃ stmt ∈ body.stmts, ∃ targets op values, stmt.kind = .assign targets op values ∧
    ∃ target : Ident, target.name = name ∧ (Expr.ident target, value) ∈ targets.zip values

theorem firstReturn?_eq_some_iff :
    body.firstReturn? = some results ↔ body.FirstReturns results := by
  rw [firstReturn?, List.findSome?_eq_some_iff]
  simp only [StmtKind.results?_eq_some_iff, StmtKind.results?_eq_none_iff]
  rfl

theorem firstAssignment?_eq_some_iff :
    body.firstAssignment? = some (targets, op, values) ↔ body.FirstAssigns targets op values := by
  rw [firstAssignment?, List.findSome?_eq_some_iff]
  simp only [StmtKind.assignment?_eq_some_iff, StmtKind.assignment?_eq_none_iff]
  rfl

/-- A first assignment whose first target is a name assigns its first value to it. -/
theorem FirstAssigns.assigns {name : Ident} {value : Expr}
    (first : body.FirstAssigns (.ident name :: targets) op (value :: values)) :
    body.Assigns name.name value := by
  obtain ⟨before, stmt, after, sections, assignment, _⟩ := first
  refine ⟨stmt, ?_, _, _, _, assignment, name, rfl, List.mem_cons_self⟩
  rw [sections]
  exact List.mem_append_right before List.mem_cons_self

end Block

end GoMend
