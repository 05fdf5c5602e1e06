import GoMend.Proofs.Parens.Closed

/-!
# Two paths to an expression

In parentheses and as an argument an expression is read along a path of its own, which goes apart
from the plain one before a channel or interface type.  It reads what the plain path reads, except
that no operator may follow such a type.
-/

namespace GoMend

/-- Whether the expression joins two operands by an operator. -/
def Expr.isBinary : Expr → Bool
  | .binary _ _ _ => true
  | _ => false

namespace Grammar

open GoMend.Parser

variable {below : Reader}

/-! ## What is no operation -/

/-- A type is read, and no operation. -/
theorem gives_type : (Grammar.type below).Gives Anywhere (·.isBinary = false) := by
  refine .after fun kind => ?_
  split
  · exact .after fun _ => .after fun _ => .ite (.after fun _ => .pure rfl) (.pure rfl)
  · exact .after fun _ => .after fun _ => .pure rfl
  · exact .after fun _ => .after fun _ => .pure rfl
  · exact .after fun _ => .after fun _ => .after fun _ => .after fun _ => .after fun _ => .pure rfl
  · exact .after fun _ => .after fun _ => .after fun _ => .pure rfl
  · exact .after fun _ => .after fun _ => .after fun _ => .pure rfl
  · exact .after fun _ => .after fun _ => .pure rfl
  · exact .after fun _ => .after fun _ => .pure rfl
  · exact .after fun _ => .after fun _ => .pure rfl
  · exact .after fun _ => .after fun _ => .after fun _ => .pure rfl
  · exact .fail

theorem gives_sliceBounds (base : Expr) (low : Option Expr) :
    (sliceBounds below base low).Gives Anywhere (·.isBinary = false) := by
  have bounds (high : Option Expr) : Gives Anywhere (fun slice : Expr => slice.isBinary = false) (do
      let max ← if ← eat .colon then pure (some (← expr below)) else pure none
      return .slice base low high max) :=
    .after fun _ => .ite (.after fun _ => .pure rfl) (.pure rfl)
  exact .after fun _ => .after fun _ => .ite (bounds _) (.after fun _ => bounds _)

theorem gives_indexOrSlice (base : Expr) :
    (indexOrSlice below base).Gives Anywhere (·.isBinary = false) :=
  .after fun _ => .ite (gives_sliceBounds base _) (.after fun _ => .after fun _ =>
    .ite (gives_sliceBounds base _) (.pure rfl))

theorem gives_selectorOrAssertion (base : Expr) :
    (selectorOrAssertion below base).Gives Anywhere (·.isBinary = false) := by
  have assertion (type : Option Expr) :
      Gives Anywhere (fun read : Expr => read.isBinary = false) (do
      let _ ← expect .rightParen
      return .assertion base type) :=
    .after fun _ => .pure rfl
  exact .after fun _ => .after fun _ => .ite (.after fun _ => .pure rfl) (.after fun _ =>
    .after fun _ => .ite (assertion _) (.after fun _ => assertion _))

theorem gives_compositeBody (type : Option Expr) :
    (compositeBody below type).Gives Anywhere (·.isBinary = false) :=
  .after fun _ => .after fun _ => .after fun _ => .after fun _ => .pure rfl

/-- What stands behind an operand makes no operation of it. -/
theorem gives_primaryTail (bound : Nat) {operand : Expr} (single : operand.isBinary = false) :
    (Production.read bound (.primaryTail operand)).Gives Anywhere (·.isBinary = false) := by
  induction bound generalizing operand with
  | zero => exact .fail
  | succ bound ih =>
      refine .after fun kind => ?_
      split
      · exact (gives_selectorOrAssertion operand).bind fun _ => ih
      · exact .after fun _ => (gives_indexOrSlice operand).nested.bind fun _ single =>
          .after fun _ => ih single
      · exact .after fun _ => .after fun _ => .after fun _ => ih rfl
      · exact .after fun _ => .ite ((gives_compositeBody _).bind fun _ => ih) (.pure single)
      · exact .pure single

/-! ## The two paths -/

/-- A type and what stands behind it. -/
def typedOperand (below : Reader) : Parser Expr := do
  let type ← below .type
  below (.primaryTail type)

variable {state final : ParserState} {result : Expr} {bound : Nat}

theorem unary_of_type (typed : state.kind ∈ [Kind.chanKw, .interfaceKw]) :
    unary below state = typedOperand below state := by
  have first : state.kind = .chanKw ∨ state.kind = .interfaceKw := by simpa using typed
  rcases first with first | first
  all_goals simp [unary, operand, bind, EStateM.bind, peek, peekSecond, first, UnaryOp.ofKind?,
    typedOperand]

theorem exprOrType_of_type (typed : state.kind ∈ [Kind.chanKw, .interfaceKw]) :
    exprOrType below state = typedOperand below state := by
  change (if [Kind.chanKw, .interfaceKw].contains state.kind = true then _ else _ : Parser Expr)
    state = _
  rw [if_pos (List.contains_iff_mem.2 typed)]
  rfl

theorem exprOrType_of_expr (plain : state.kind ∉ [Kind.chanKw, .interfaceKw]) :
    exprOrType below state = expr below state := by
  change (if [Kind.chanKw, .interfaceKw].contains state.kind = true then _ else _ : Parser Expr)
    state = _
  rw [if_neg (List.contains_iff_mem.not.2 plain)]

/-- Behind an operand the plain path stops, or finds an operator and gives an operation. -/
theorem binaryTail_ends {floor : Nat} {left : Expr}
    (run : Production.read bound (.binaryTail floor left) state = .ok result final) :
    (result = left ∧ final = state) ∨
      (result.isBinary = true ∧ ∃ op, BinaryOp.ofKind? state.kind = some op) := by
  induction bound generalizing left state with
  | zero => cases run
  | succ bound ih =>
      obtain ⟨kind, _, peeked, run⟩ := bind_eq_ok_iff.1 run
      cases peeked
      cases found : BinaryOp.ofKind? state.kind with
      | none =>
          simp only [found] at run
          cases run
          exact .inl ⟨rfl, rfl⟩
      | some op =>
          simp only [found] at run
          split at run
          · cases run
            exact .inl ⟨rfl, rfl⟩
          · obtain ⟨_, _, _, run⟩ := bind_eq_ok_iff.1 run
            obtain ⟨right, middle, _, run⟩ := bind_eq_ok_iff.1 run
            refine .inr ⟨?_, op, rfl⟩
            rcases ih run with ⟨rfl, _⟩ | ⟨binary, _⟩
            · rfl
            · exact binary

/-- The plain path reads a unary expression first. -/
theorem unary_of_run (run : expr (Production.read bound) state = .ok result final) :
    ∃ inner left middle, inner < bound ∧
      Production.read (inner + 1) .unary state = .ok left middle ∧
      Production.read (inner + 1) (.binaryTail 1 left) middle = .ok result final := by
  cases bound with
  | zero => cases run
  | succ bound =>
      obtain ⟨left, middle, first, rest⟩ := bind_eq_ok_iff.1 (show
        (Production.read bound .unary >>= fun left =>
          Production.read bound (.binaryTail 1 left)) state = .ok result final from run)
      cases bound with
      | zero => cases first
      | succ bound => exact ⟨bound, left, middle, by omega, first, rest⟩

variable {more : Closing} {state' : ParserState} {bound' : Nat}

theorem closes_typedOperand (deeper : bound ≤ bound') : Closes more
    (typedOperand (Production.read bound)) (typedOperand (Production.read bound')) :=
  (Production.read_closes deeper .type rfl).bind fun type =>
    Production.read_closes deeper (.primaryTail type) rfl

theorem carries_typedOperand (deeper : bound ≤ bound') : Carries more
    (typedOperand (Production.read bound)) (typedOperand (Production.read bound')) :=
  have : Carries more (Production.read bound .type) (Production.read bound' .type) :=
    Production.read_carries deeper .type
  .bind fun type => Production.read_carries deeper (.primaryTail type)

theorem gives_typedOperand :
    (typedOperand (Production.read bound)).Gives Anywhere (·.isBinary = false) := by
  have type : (Production.read bound .type).Gives Anywhere (·.isBinary = false) := by
    cases bound with
    | zero => exact .fail
    | succ bound => exact gives_type
  exact type.bind fun _ => gives_primaryTail bound

theorem kind_of_run (run : expr (Production.read bound) state = .ok result final) :
    state.kind ∉ [Kind.rightParen, .endOfFile] := by
  obtain ⟨inner, left, middle, _, first, _⟩ := unary_of_run run
  change unary (Production.read inner) state = .ok left middle at first
  intro ended
  have ended : state.kind = .rightParen ∨ state.kind = .endOfFile := by simpa using ended
  rcases ended with ended | ended
  all_goals simp [unary, operand, bind, EStateM.bind, peek, peekSecond, ended, UnaryOp.ofKind?,
    LiteralKind.ofKind?, fail] at first

/-- Where an expression is read there is a word, and it closes nothing. -/
theorem kind_of_continues (continues : state.Continues more state')
    (run : expr (Production.read bound) state = .ok result final) :
    state'.kind ∉ [Kind.rightParen, .endOfFile] := by
  have some := kind_of_run run
  rwa [← continues.kind (.inl ?_)] at some
  intro nothing
  exact some (by rw [ParserState.kind_of_nil nothing]; decide)

theorem typed_iff (continues : state.Continues more state') :
    state'.kind ∈ [Kind.chanKw, .interfaceKw] ↔ state.kind ∈ [Kind.chanKw, .interfaceKw] := by
  have chan : state'.kind = .chanKw ↔ state.kind = .chanKw := continues.kind_eq_iff (by decide)
  have interface : state'.kind = .interfaceKw ↔ state.kind = .interfaceKw :=
    continues.kind_eq_iff (by decide)
  simp [chan, interface]

/-- Where no operator follows a channel or interface type, the second path reads what the plain
path reads, and stops before a closing parenthesis. -/
theorem exprOrType_follows (deeper : bound ≤ bound') (continues : state.Continues more state')
    (run : expr (Production.read bound) state = .ok result final)
    (single : state.kind ∈ [Kind.chanKw, .interfaceKw] → result.isBinary = false) :
    ∃ final', exprOrType (Production.read bound') state' = .ok result final' ∧
      final.Continues more final' := by
  by_cases typed : state.kind ∈ [Kind.chanKw, .interfaceKw]
  · obtain ⟨inner, left, middle, within, first, rest⟩ := unary_of_run run
    rcases binaryTail_ends rest with ⟨rfl, rfl⟩ | ⟨binary, _⟩
    · change unary (Production.read inner) state = _ at first
      rw [unary_of_type typed] at first
      rw [exprOrType_of_type ((typed_iff continues).2 typed)]
      exact closes_typedOperand (by omega) continues first trivial
    · rw [single typed] at binary
      cases binary
  · rw [exprOrType_of_expr ((typed_iff continues).not.2 typed)]
    exact Production.read_closes deeper (.binary 1) rfl continues run trivial

/-- Where an operator follows a channel or interface type, the second path stops before it. -/
theorem exprOrType_stops (deeper : bound ≤ bound') (continues : state.Continues more state')
    (run : expr (Production.read bound) state = .ok result final)
    (typed : state.kind ∈ [Kind.chanKw, .interfaceKw]) (binary : result.isBinary = true) :
    ∃ left middle', exprOrType (Production.read bound') state' = .ok left middle' ∧
      ∃ token ∈ state.ahead, (BinaryOp.ofKind? token.kind).isSome ∧ middle'.kind = token.kind ∧
        middle'.offset = token.offset := by
  obtain ⟨inner, left, middle, within, first, rest⟩ := unary_of_run run
  change unary (Production.read inner) state = _ at first
  rw [unary_of_type typed] at first
  rcases binaryTail_ends rest with ⟨rfl, _⟩ | ⟨_, op, found⟩
  · have single : result.isBinary = false := (gives_typedOperand state trivial).of_ok first
    rw [single] at binary
    cases binary
  · have carries : Carries more (typedOperand (Production.read inner))
        (typedOperand (Production.read bound')) := carries_typedOperand (by omega)
    have before := (carries.forward.before state).of_ok first
    cases words : middle.ahead with
    | nil =>
        rw [ParserState.kind_of_nil words] at found
        cases found
    | cons token behind =>
        have inside : middle.Inside more := .inl (by simp [words])
        obtain ⟨middle', first', continues'⟩ := carries.follows continues first inside
        have kind : middle.kind = token.kind := by rw [ParserState.kind, words]
        have offset : middle.offset = token.offset := by rw [ParserState.offset, words]
        refine ⟨left, middle', ?_, token, ?_, ?_, ?_, ?_⟩
        · rw [exprOrType_of_type ((typed_iff continues).2 typed)]
          exact first'
        · exact before.ahead.subset (by simp [words])
        · rw [← kind, found]
          rfl
        · rw [continues'.kind inside, kind]
        · rw [continues'.offset inside, offset]

end Grammar

end GoMend
