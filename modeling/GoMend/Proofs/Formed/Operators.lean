import Mathlib.Data.List.Forall2
import GoMend.Proofs.Formed.Document

/-!
# Operators and operands

An expression is a row of operands and operators that was read word by word.  How they are grouped
follows from the row alone: a left operand binds at least as tightly as the operator behind it, and
a right operand more tightly than the operator in front of it.
-/

namespace GoMend

open GoMend.Parser

theorem BinaryOp.one_le_precedence (op : BinaryOp) : 1 ≤ op.precedence := by
  cases op <;> decide

/-- An operand or an operator of an expression. -/
inductive ExprPart where
  /-- What is read without an operator around it. -/
  | operand (expr : Expr)
  /-- An operator in front of an operand. -/
  | front (op : UnaryOp)
  /-- A star in front of an operand. -/
  | star
  /-- An operator between two operands. -/
  | between (op : BinaryOp)

namespace ExprPart

/-- The category of the word that is the operator. -/
def kind? : ExprPart → Option Kind
  | .operand _ => none
  | .front op => some op.kind
  | .star => some .star
  | .between op => some op.kind

/-- What is read from the first state to the second is a row of operands and operators. -/
inductive Row : ParserState → List ExprPart → ParserState → Prop
  | nil (state : ParserState) : Row state [] state
  | operand {expr : Expr} {parts : List ExprPart} {bound : Nat} {state middle final : ParserState}
      (isOperand : expr.isOperand = true)
      (reads : Production.read bound .unary state = .ok expr middle)
      (behind : Row middle parts final) : Row state (.operand expr :: parts) final
  | operator {part : ExprPart} {parts : List ExprPart} {state final : ParserState}
      (spelled : part.kind? = some state.kind) (behind : Row state.advance parts final) :
      Row state (part :: parts) final

theorem Row.append {parts others : List ExprPart} {state middle final : ParserState}
    (before : Row state parts middle) (behind : Row middle others final) :
    Row state (parts ++ others) final := by
  induction before with
  | nil => exact behind
  | operand isOperand reads _ ih => exact .operand isOperand reads (ih behind)
  | operator spelled _ ih => exact .operator spelled (ih behind)

end ExprPart

namespace Expr

/-- The operands and operators of an expression from left to right. -/
def row : Expr → List ExprPart
  | .binary left op right => left.row ++ .between op :: right.row
  | .unary op operand => .front op :: operand.row
  | .star inner => .star :: inner.row
  | expr => [.operand expr]
termination_by structural expr => expr

/-- The operators of the expression group its operands as their precedence has it. -/
def Grouped : Expr → Prop
  | .binary left op right =>
      left.Grouped ∧ left.binds op.precedence ∧ right.Grouped ∧ right.binds (op.precedence + 1)
  | .unary _ operand => operand.Grouped ∧ operand.isBinary = false
  | .star inner => inner.Grouped ∧ inner.isBinary = false
  | _ => True
termination_by structural expr => expr

/-- An induction over the operators of an expression, down to its operands. -/
@[elab_as_elim]
theorem operatorInduction {motive : Expr → Prop}
    (binary : ∀ left op right, motive left → motive right → motive (.binary left op right))
    (unary : ∀ op operand, motive operand → motive (.unary op operand))
    (star : ∀ inner, motive inner → motive (.star inner))
    (operand : ∀ expr, expr.isOperand = true → motive expr) : (expr : Expr) → motive expr
  | .binary left op right =>
      binary left op right (operatorInduction binary unary star operand left)
        (operatorInduction binary unary star operand right)
  | .unary op inner => unary op inner (operatorInduction binary unary star operand inner)
  | .star inner => star inner (operatorInduction binary unary star operand inner)
  | .ident _ | .literal _ | .composite _ _ _ | .function _ _ | .paren _ | .selector _ _
  | .index _ _ | .slice _ _ _ _ | .assertion _ _ | .call _ _ _ | .keyValue _ _ | .arrayType _ _
  | .mapType _ _ | .chanType _ _ | .funcType _ | .structType _ | .interfaceType _
  | .variadic _ => operand _ rfl
termination_by structural expr => expr

variable {expr : Expr} {op : BinaryOp} {floor : Nat}

theorem row_of_isOperand (operand : expr.isOperand = true) :
    expr.row = [.operand expr] := by
  cases expr with
  | binary | unary | star => cases operand
  | _ => rfl

theorem Formed.grouped {source : List Token} (formed : expr.Formed source .value) :
    expr.Grouped := by
  induction expr using operatorInduction with
  | binary left op right leftIh rightIh =>
      cases formed with
      | binary before grouped behind tighter =>
          exact ⟨leftIh before, grouped, rightIh behind, tighter⟩
  | unary op operand ih =>
      cases formed with
      | unary _ inside tight => exact ⟨ih inside, tight⟩
  | star inner ih =>
      cases formed with
      | star inside tight => exact ⟨ih inside, tight⟩
  | operand expr operand =>
      cases expr with
      | binary | unary | star => cases operand
      | _ => trivial

/-! ## One tree for each row -/

/-- Every operator in an expression binds at least as tightly as the floor that the expression
meets. -/
theorem le_of_mem_row (grouped : expr.Grouped) (binds : expr.binds floor)
    (member : .between op ∈ expr.row) : floor ≤ op.precedence := by
  induction expr using operatorInduction generalizing floor with
  | binary left root right leftIh rightIh =>
      have rootBinds : floor ≤ root.precedence := binds
      cases List.mem_append.1 member with
      | inl before => exact Nat.le_trans rootBinds (leftIh grouped.1 grouped.2.1 before)
      | inr further =>
          cases List.mem_cons.1 further with
          | inl same =>
              cases same
              exact rootBinds
          | inr behind =>
              have tighter := rightIh grouped.2.2.1 grouped.2.2.2 behind
              exact Nat.le_trans rootBinds (Nat.le_of_succ_le tighter)
  | unary _ operand ih =>
      have inside := (List.mem_cons.1 member).resolve_left (by simp)
      exact ih grouped.1 (operand.binds_of_not_isBinary grouped.2 floor) inside
  | star inner ih =>
      have inside := (List.mem_cons.1 member).resolve_left (by simp)
      exact ih grouped.1 (inner.binds_of_not_isBinary grouped.2 floor) inside
  | operand expr operand =>
      rw [row_of_isOperand operand] at member
      cases List.mem_singleton.1 member

/-- Only what joins two operands has an operator between some. -/
theorem between_notMem_row (grouped : expr.Grouped) (single : expr.isBinary = false) :
    .between op ∉ expr.row := by
  intro member
  have above := le_of_mem_row grouped (expr.binds_of_not_isBinary single (op.precedence + 1))
    member
  exact Nat.not_succ_le_self _ above

/-- Two roots do not stand across each other: the operator behind the one and in front of the other
would bind both more tightly and more loosely than it may. -/
theorem row_ne_across {left right left' right' : Expr} {op' : BinaryOp}
    {between : List ExprPart} (grouped : (Expr.binary left op right).Grouped)
    (grouped' : (Expr.binary left' op' right').Grouped)
    (before : left'.row = left.row ++ .between op :: between) :
    right.row ≠ between ++ .between op' :: right'.row := by
  intro behind
  have inLeft : .between op ∈ left'.row := by
    rw [before]
    exact List.mem_append_right _ List.mem_cons_self
  have inRight : .between op' ∈ right.row := by
    rw [behind]
    exact List.mem_append_right _ List.mem_cons_self
  have looser : op'.precedence ≤ op.precedence := le_of_mem_row grouped'.1 grouped'.2.1 inLeft
  have tighter : op.precedence + 1 ≤ op'.precedence :=
    le_of_mem_row grouped.2.2.1 grouped.2.2.2 inRight
  exact Nat.not_succ_le_self _ (Nat.le_trans tighter looser)

/-- The root of an expression that joins two operands is told by its row. -/
theorem row_binary_inj {left right left' right' : Expr} {op' : BinaryOp}
    (grouped : (Expr.binary left op right).Grouped)
    (grouped' : (Expr.binary left' op' right').Grouped)
    (same : (Expr.binary left op right).row = (Expr.binary left' op' right').row) :
    left.row = left'.row ∧ op = op' ∧ right.row = right'.row := by
  have split : left.row ++ .between op :: right.row =
      left'.row ++ .between op' :: right'.row := same
  cases List.append_eq_append_iff.1 split with
  | inl longer =>
      obtain ⟨between, before, behind⟩ := longer
      cases between with
      | nil =>
          rw [List.append_nil] at before
          have roots := List.cons.inj behind
          exact ⟨before.symm, ExprPart.between.inj roots.1, roots.2⟩
      | cons part between =>
          have roots := List.cons.inj behind
          rw [← roots.1] at before
          exact absurd roots.2 (row_ne_across grouped grouped' before)
  | inr shorter =>
      obtain ⟨between, before, behind⟩ := shorter
      cases between with
      | nil =>
          rw [List.append_nil] at before
          have roots := List.cons.inj behind
          exact ⟨before, (ExprPart.between.inj roots.1).symm, roots.2.symm⟩
      | cons part between =>
          have roots := List.cons.inj behind
          rw [← roots.1] at before
          exact absurd roots.2 (row_ne_across grouped' grouped before)

/-- A tree that joins two operands has an operator between some, and no other tree has. -/
theorem isBinary_of_row {other : Expr} (grouped : expr.Grouped) (single : expr.isBinary = false)
    (same : expr.row = other.row) : other.isBinary = false := by
  cases other with
  | binary left op right =>
      have absent : ExprPart.between op ∉ expr.row := between_notMem_row grouped single
      rw [same] at absent
      exact absurd (List.mem_append_right _ List.mem_cons_self) absent
  | _ => rfl

/-- One row of operands and operators groups to one tree. -/
theorem Grouped.eq_of_row {other : Expr} (grouped : expr.Grouped) (grouped' : other.Grouped)
    (same : expr.row = other.row) : expr = other := by
  induction expr using operatorInduction generalizing other with
  | binary left op right leftIh rightIh =>
      cases other with
      | binary left' op' right' =>
          have roots := row_binary_inj grouped grouped' same
          rw [leftIh grouped.1 grouped'.1 roots.1, roots.2.1,
            rightIh grouped.2.2.1 grouped'.2.2.1 roots.2.2]
      | _ => cases isBinary_of_row grouped' rfl same.symm
  | unary op operand ih =>
      have single := isBinary_of_row grouped rfl same
      induction other using operatorInduction with
      | binary => cases single
      | unary op' operand' =>
          have heads := List.cons.inj same
          rw [ExprPart.front.inj heads.1, ih grouped.1 grouped'.1 heads.2]
      | star inner' => cases (List.cons.inj same).1
      | operand other operand' =>
          rw [row_of_isOperand operand'] at same
          cases (List.cons.inj same).1
  | star inner ih =>
      have single := isBinary_of_row grouped rfl same
      induction other using operatorInduction with
      | binary => cases single
      | unary op' operand' => cases (List.cons.inj same).1
      | star inner' =>
          have heads := List.cons.inj same
          rw [ih grouped.1 grouped'.1 heads.2]
      | operand other operand' =>
          rw [row_of_isOperand operand'] at same
          cases (List.cons.inj same).1
  | operand expr operand =>
      have single := isBinary_of_row grouped (isBinary_of_isOperand operand) same
      rw [row_of_isOperand operand] at same
      induction other using operatorInduction with
      | binary => cases single
      | unary op' operand' => cases (List.cons.inj same).1
      | star inner' => cases (List.cons.inj same).1
      | operand other operand' =>
          rw [row_of_isOperand operand'] at same
          exact ExprPart.operand.inj (List.cons.inj same).1

end Expr

/-! ## The row that is read -/

namespace Production

open ExprPart (Row)

/-- What is read as an expression is the row of its parts, or what is missing from it. -/
def Rows : (production : Production) → ParserState → production.Result → ParserState → Prop
  | .binary _, state, (expr : Expr), final => Row state expr.row final
  | .binaryTail _ left, state, (expr : Expr), final =>
      ∃ more, expr.row = left.row ++ more ∧ Row state more final
  | .unary, state, (expr : Expr), final => Row state expr.row final
  | _, _, _, _ => True

variable {bound : Nat} {state : ParserState}

theorem rows_binary (rows : ∀ production state,
      (read bound production).Ensures state (production.Rows state)) (floor : Nat) :
    (Grammar.binary (read bound) floor).Ensures state fun expr final =>
      Row state expr.row final := by
  rw [Grammar.binary, Ensures, ends_bind]
  apply (rows .unary state).weaken
  intro left middle before
  apply (rows (.binaryTail floor left) middle).weaken
  intro expr final read
  obtain ⟨more, parts, behind⟩ := read
  rw [parts]
  exact before.append behind

theorem rows_binaryTail (rows : ∀ production state,
      (read bound production).Ensures state (production.Rows state)) (floor : Nat) (left : Expr) :
    (Grammar.binaryTail (read bound) floor left).Ensures state fun expr final =>
      ∃ more, expr.row = left.row ++ more ∧ Row state more final := by
  have ended : ∃ more, left.row = left.row ++ more ∧ Row state more state :=
    ⟨[], (List.append_nil _).symm, .nil state⟩
  rw [Grammar.binaryTail, Ensures, ends_bind, ends_peek]
  split
  · rename_i op isOp
    rw [ends_ite]
    constructor
    · exact fun _ => ended
    · intro _
      rw [ends_bind, ends_bump, ends_bind]
      apply (rows (.binary (op.precedence + 1)) state.advance).weaken
      intro right middle before
      apply (rows (.binaryTail floor (.binary left op right)) middle).weaken
      intro expr final read
      obtain ⟨more, parts, behind⟩ := read
      refine ⟨.between op :: (right.row ++ more), ?_, ?_⟩
      · rw [parts, Expr.row, List.append_assoc, List.cons_append]
      · apply Row.operator
        · rw [ExprPart.kind?, BinaryOp.ofKind?_eq_some_iff.1 isOp]
        · exact before.append behind
  · exact ended

theorem rows_unary (rows : ∀ production state,
      (read bound production).Ensures state (production.Rows state)) :
    (Grammar.unary (read bound)).Ensures state fun expr final => Row state expr.row final := by
  apply ensures_of_ok
  intro expr final run
  have reads : read (bound + 1) .unary state = .ok expr final := run
  have forms := read_forms state.ahead bound
  cases (Grammar.unary_cases forms state (List.suffix_refl _)).of_ok run with
  | inl operand =>
      rw [Expr.row_of_isOperand operand.2]
      exact .operand operand.2 reads (.nil final)
  | inr prefixed =>
      cases prefixed with
      | inl starred =>
          obtain ⟨inner, rfl, isStar, run⟩ := starred
          apply Row.operator
          · rw [ExprPart.kind?, isStar]
          · exact (rows .unary state.advance).of_ok run
      | inr signed =>
          obtain ⟨op, operand, rfl, isOp, run⟩ := signed
          apply Row.operator
          · rw [ExprPart.kind?, UnaryOp.ofKind?_eq_some_iff.1 isOp]
          · exact (rows .unary state.advance).of_ok run

theorem read_rows (bound : Nat) (production : Production) (state : ParserState) :
    (read bound production).Ensures state (production.Rows state) := by
  induction bound generalizing production state with
  | zero => exact trivial
  | succ bound ih =>
      cases production with
      | binary floor => exact rows_binary ih floor
      | binaryTail floor left => exact rows_binaryTail ih floor left
      | unary => exact rows_unary ih
      | _ => exact ensures_trivial _ state

end Production

namespace Grammar

/-- An expression is well-formed as it is read.  Its operands and operators are those that stand in
the text, in their order, and no other tree groups them as their precedence has it.  What follows is
no operator between operands. -/
theorem expr_operators {bound : Nat} {state final : ParserState} {result : Expr}
    (run : expr (Production.read bound) state = .ok result final) :
    result.Formed state.ahead .value ∧ ExprPart.Row state result.row final ∧
      (∀ other : Expr, other.Grouped → other.row = result.row → other = result) ∧
        BinaryOp.ofKind? final.kind = none := by
  have forms := Production.read_forms state.ahead bound
  have read := (forms.each (.binary 1) state (List.suffix_refl _)).of_ok run
  obtain ⟨formed, _, loose⟩ := read
  constructor
  · exact formed
  constructor
  · exact (Production.read_rows bound (.binary 1) state).of_ok run
  constructor
  · intro other grouped same
    exact grouped.eq_of_row formed.grouped same
  · cases isOp : BinaryOp.ofKind? final.kind with
    | none => rfl
    | some op => exact absurd (loose op isOp) (Nat.not_lt.2 op.one_le_precedence)

/-- Of two differences in a row the left one is the left operand, and the product binds tighter than
either. -/
theorem expr_operators_differences :
    let state : ParserState :=
      ⟨[⟨.identifier, "a", 0⟩, ⟨.minus, "-", 2⟩, ⟨.identifier, "b", 4⟩, ⟨.star, "*", 6⟩,
        ⟨.minus, "-", 8⟩, ⟨.identifier, "c", 9⟩, ⟨.minus, "-", 11⟩, ⟨.identifier, "d", 13⟩,
        ⟨.semicolon, "", 14⟩], [], 0, 0, LineIndex.ofText "a - b * -c - d"⟩
    let result : Expr := .binary
      (.binary (.ident ⟨"a", some 0⟩) .sub
        (.binary (.ident ⟨"b", some 4⟩) .mul (.unary .minus (.ident ⟨"c", some 9⟩))))
      .sub (.ident ⟨"d", some 13⟩)
    ∃ final, expr (Production.read 9) state = .ok result final ∧
      result.Formed state.ahead .value ∧ ExprPart.Row state result.row final ∧
        (∀ other : Expr, other.Grouped → other.row = result.row → other = result) ∧
          BinaryOp.ofKind? final.kind = none := by
  intro state result
  have run : expr (Production.read 9) state = .ok result
      { state with ahead := [⟨.semicolon, "", 14⟩], lastStop := 14 } := by
    rfl
  exact ⟨_, run, expr_operators run⟩

end Grammar

end GoMend
