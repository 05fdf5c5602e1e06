import GoMend.Token.Kind

/-!
# Operators

The operators of statements and expressions, each tied to the token that spells
it.  A binary operator also has a precedence from one (loosest) to five.
-/

namespace GoMend

/-- The operator of an assignment. -/
inductive AssignOp where
  | assign | define
  | add | sub | mul | quo | rem | and | or | xor | shl | shr | andNot
  deriving DecidableEq, Repr

namespace AssignOp

/-- The token that spells the operator. -/
def kind : AssignOp → Kind
  | .assign => .eq
  | .define => .colonEq
  | .add => .plusEq
  | .sub => .minusEq
  | .mul => .starEq
  | .quo => .slashEq
  | .rem => .percentEq
  | .and => .ampEq
  | .or => .pipeEq
  | .xor => .caretEq
  | .shl => .shlEq
  | .shr => .shrEq
  | .andNot => .ampCaretEq

/-- The operator that a token spells. -/
def ofKind? : Kind → Option AssignOp
  | .eq => some .assign
  | .colonEq => some .define
  | .plusEq => some .add
  | .minusEq => some .sub
  | .starEq => some .mul
  | .slashEq => some .quo
  | .percentEq => some .rem
  | .ampEq => some .and
  | .pipeEq => some .or
  | .caretEq => some .xor
  | .shlEq => some .shl
  | .shrEq => some .shr
  | .ampCaretEq => some .andNot
  | _ => none

/-- A token spells at most the operator that is spelled by it. -/
theorem ofKind?_eq_some_iff {kind : Kind} {op : AssignOp} :
    ofKind? kind = some op ↔ kind = op.kind := by
  constructor
  · intro spelled
    cases kind <;> simp [ofKind?] at spelled <;> subst spelled <;> rfl
  · rintro rfl
    cases op <;> rfl

end AssignOp

/-- The operator between two operands. -/
inductive BinaryOp where
  | logOr | logAnd
  | eq | ne | lt | le | gt | ge
  | add | sub | or | xor
  | mul | quo | rem | shl | shr | and | andNot
  deriving DecidableEq, Repr

namespace BinaryOp

/-- The token that spells the operator. -/
def kind : BinaryOp → Kind
  | .logOr => .pipePipe
  | .logAnd => .ampAmp
  | .eq => .eqEq
  | .ne => .bangEq
  | .lt => .lt
  | .le => .ltEq
  | .gt => .gt
  | .ge => .gtEq
  | .add => .plus
  | .sub => .minus
  | .or => .pipe
  | .xor => .caret
  | .mul => .star
  | .quo => .slash
  | .rem => .percent
  | .shl => .shl
  | .shr => .shr
  | .and => .amp
  | .andNot => .ampCaret

/-- The operator that a token spells between operands. -/
def ofKind? : Kind → Option BinaryOp
  | .pipePipe => some .logOr
  | .ampAmp => some .logAnd
  | .eqEq => some .eq
  | .bangEq => some .ne
  | .lt => some .lt
  | .ltEq => some .le
  | .gt => some .gt
  | .gtEq => some .ge
  | .plus => some .add
  | .minus => some .sub
  | .pipe => some .or
  | .caret => some .xor
  | .star => some .mul
  | .slash => some .quo
  | .percent => some .rem
  | .shl => some .shl
  | .shr => some .shr
  | .amp => some .and
  | .ampCaret => some .andNot
  | _ => none

/-- How tightly the operator binds, from one to five. -/
def precedence : BinaryOp → Nat
  | .logOr => 1
  | .logAnd => 2
  | .eq | .ne | .lt | .le | .gt | .ge => 3
  | .add | .sub | .or | .xor => 4
  | .mul | .quo | .rem | .shl | .shr | .and | .andNot => 5

/-- A token spells at most the operator that is spelled by it. -/
theorem ofKind?_eq_some_iff {kind : Kind} {op : BinaryOp} :
    ofKind? kind = some op ↔ kind = op.kind := by
  constructor
  · intro spelled
    cases kind <;> simp [ofKind?] at spelled <;> subst spelled <;> rfl
  · rintro rfl
    cases op <;> rfl

end BinaryOp

/-- The operator before an operand; the pointer star has a node of its own. -/
inductive UnaryOp where
  | plus | minus | not | xor | address | receive | tilde
  deriving DecidableEq, Repr

namespace UnaryOp

/-- The token that spells the operator. -/
def kind : UnaryOp → Kind
  | .plus => .plus
  | .minus => .minus
  | .not => .bang
  | .xor => .caret
  | .address => .amp
  | .receive => .arrow
  | .tilde => .tilde

/-- The operator that a token spells before an operand. -/
def ofKind? : Kind → Option UnaryOp
  | .plus => some .plus
  | .minus => some .minus
  | .bang => some .not
  | .caret => some .xor
  | .amp => some .address
  | .arrow => some .receive
  | .tilde => some .tilde
  | _ => none

/-- A token spells at most the operator that is spelled by it. -/
theorem ofKind?_eq_some_iff {kind : Kind} {op : UnaryOp} :
    ofKind? kind = some op ↔ kind = op.kind := by
  constructor
  · intro spelled
    cases kind <;> simp [ofKind?] at spelled <;> subst spelled <;> rfl
  · rintro rfl
    cases op <;> rfl

end UnaryOp

end GoMend
