import GoMend.Grammar.Types

/-!
# Expressions
-/

namespace GoMend.Grammar

open GoMend.Parser

/-- A plain or package-qualified name, which may name a type. -/
def isTypeName : Expr → Bool
  | .ident _ => true
  | .selector (.ident _) _ => true
  | _ => false

/-- An expression that can be the type of a composite literal. -/
def isLiteralType : Expr → Bool
  | .arrayType _ _ | .mapType _ _ | .structType _ => true
  | expr => isTypeName expr

variable (below : Reader)

/-- An expression. -/
def expr : Parser Expr :=
  below (.binary 1)

/-- A list of expressions. -/
def exprList : Parser (List Expr) := do
  let first ← expr below
  return first :: (← below .exprTail)

/-- Further expressions, each behind a comma. -/
def exprTail : Parser (List Expr) := do
  if ← eat .comma then
    let next ← expr below
    return next :: (← below .exprTail)
  else return []

/-- Operands joined by operators that bind at least as tightly as the floor. -/
def binary (floor : Nat) : Parser Expr := do
  let left ← below .unary
  below (.binaryTail floor left)

/-- What follows a left operand.  The right operand of an operator takes only
operators that bind more tightly, so operators of one precedence group to the
left. -/
def binaryTail (floor : Nat) (left : Expr) : Parser Expr := do
  match BinaryOp.ofKind? (← peek) with
  | some op =>
      if op.precedence < floor then return left
      else
        let _ ← bump
        let right ← below (.binary (op.precedence + 1))
        below (.binaryTail floor (.binary left op right))
  | none => return left

/-- The body of a function. -/
def functionBody : Parser Block :=
  fresh (below .block)

/-- The braces of a composite literal; it counts as broken across lines if they
stand on different lines. -/
def compositeBody (type : Option Expr) : Parser Expr := do
  let opening ← expect .leftBrace
  let elements ← fresh (below .elements)
  let close ← expect .rightBrace
  let lines := (← get).lines
  let multiline :=
    (lines.position opening.offset).line != (lines.position close.offset).line
  return .composite type elements multiline

/-- A key or value of a composite literal. -/
def element : Parser Expr := do
  if ← at? .leftBrace then compositeBody below none
  else expr below

/-- The elements of a composite literal. -/
def elements : Parser (List Expr) := do
  if ← atAny [.rightBrace, .endOfFile] then return []
  else
    let first ← below .element
    let item ←
      if ← eat .colon then pure (Expr.keyValue first (← below .element))
      else pure first
    if ← eat .comma then return item :: (← below .elements)
    else return [item]

/-- An argument or a parenthesised expression.  A channel or interface type may
stand here, perhaps converted or called, but not as an operand of an operator. -/
def exprOrType : Parser Expr := do
  if ← atAny [.chanKw, .interfaceKw] then
    let type ← below .type
    below (.primaryTail type)
  else expr below

/-- An expression without operators and without anything behind it. -/
def operand : Parser Expr := do
  match ← peek with
  | .identifier => return .ident (← ident)
  | .leftParen =>
      let _ ← bump
      let inner ← nested (exprOrType below)
      let _ ← expect .rightParen
      return .paren inner
  | .funcKw =>
      let _ ← bump
      let signature ← signature below
      if ← at? .leftBrace then return .function signature (← functionBody below)
      else return .funcType signature
  | .leftBracket | .mapKw | .chanKw | .structKw | .interfaceKw => below .type
  | kind =>
      match LiteralKind.ofKind? kind with
      | some literalKind => return .literal (toLiteral literalKind (← bump))
      | none => fail (.noOperand kind)

/-- An operand behind prefix operators. -/
def unary : Parser Expr := do
  let kind ← peek
  if kind = .star then
    let _ ← bump
    return .star (← below .unary)
  else if kind = .arrow ∧ (← peekSecond) = .chanKw then
    let type ← below .type
    below (.primaryTail type)
  else
    match UnaryOp.ofKind? kind with
    | some op =>
        let _ ← bump
        return .unary op (← below .unary)
    | none =>
        let first ← operand below
        below (.primaryTail first)

/-- The arguments of a call. -/
def arguments : Parser (List Expr × Bool) := do
  if ← atAny [.rightParen, .endOfFile] then return ([], false)
  else
    let first ← exprOrType below
    let spread ← eat .ellipsis
    if ← eat .comma then
      let (rest, restSpread) ← below .arguments
      return (first :: rest, spread || restSpread)
    else return ([first], spread)

/-- The bounds of a slice, from the first colon on. -/
def sliceBounds (base : Expr) (low : Option Expr) : Parser Expr := do
  let _ ← expect .colon
  let high ←
    if ← atAny [.colon, .rightBracket] then pure none
    else pure (some (← expr below))
  let max ←
    if ← eat .colon then pure (some (← expr below))
    else pure none
  return .slice base low high max

/-- An index or the bounds of a slice. -/
def indexOrSlice (base : Expr) : Parser Expr := do
  if ← at? .colon then sliceBounds below base none
  else
    let low ← expr below
    if ← at? .colon then sliceBounds below base (some low)
    else return .index base low

/-- A selector or a type assertion, from the dot on. -/
def selectorOrAssertion (base : Expr) : Parser Expr := do
  let _ ← expect .dot
  if ← at? .identifier then return .selector base (← ident)
  else
    let _ ← expect .leftParen
    let type ←
      if ← eat .typeKw then pure none
      else pure (some (← below .type))
    let _ ← expect .rightParen
    return .assertion base type

/-- Whatever may stand behind an operand, as often as it does. -/
def primaryTail (operand : Expr) : Parser Expr := do
  match ← peek with
  | .dot =>
      let next ← selectorOrAssertion below operand
      below (.primaryTail next)
  | .leftBracket =>
      let _ ← bump
      let next ← nested (indexOrSlice below operand)
      let _ ← expect .rightBracket
      below (.primaryTail next)
  | .leftParen =>
      let _ ← bump
      let (arguments, spread) ← nested (below .arguments)
      let _ ← expect .rightParen
      below (.primaryTail (.call operand arguments spread))
  | .leftBrace =>
      if isLiteralType operand && (0 ≤ (← get).level || !isTypeName operand) then
        let next ← compositeBody below (some operand)
        below (.primaryTail next)
      else return operand
  | _ => return operand

end GoMend.Grammar
