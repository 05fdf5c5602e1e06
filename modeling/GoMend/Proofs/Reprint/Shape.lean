import GoMend.Grammar.Expressions
import GoMend.Proofs.Reprint.Scanning
import GoMend.Proofs.Reprint.Tree

/-!
# The shape of what was read

A tree that was read is narrower than its type says: operators bind as their precedence asks,
types stand where types are read, and a word that would run into the next one is kept apart.
`Shaped` lists for each place of the grammar which trees can stand there, as far as their own
layout brings them back.
-/

namespace GoMend

open Token (Lexeme Joins)
open Piece (lead? breaksIn Legible)

/-- A token is at most the kind of literal of which it is the category. -/
theorem LiteralKind.ofKind?_eq_some_iff {kind : Kind} {literal : LiteralKind} :
    LiteralKind.ofKind? kind = some literal ↔ kind = literal.kind := by
  constructor
  · intro found
    cases kind <;> simp [LiteralKind.ofKind?] at found <;> subst found <;> rfl
  · rintro rfl
    cases literal <;> rfl

namespace Expr

/-- The category of the first word of the expression. -/
def lead? (expr : Expr) : Option Kind :=
  Piece.lead? expr.pieces

/-- Whether the last word of a type is a name that a dot behind it would qualify. -/
def endsInName : Expr → Bool
  | .ident _ => true
  | .star inner => inner.endsInName
  | .arrayType _ element => element.endsInName
  | .mapType _ value => value.endsInName
  | .chanType _ element => element.endsInName
  | _ => false
termination_by structural expr => expr

/-- Whether a dot behind the expression belongs to the whole of it. -/
def takesDot : Expr → Bool
  | .literal value => !(literal value).isNumeral
  | .arrayType _ element => !element.endsInName
  | .mapType _ value => !value.endsInName
  | .chanType _ element => !element.endsInName
  | _ => true

theorem not_isNumeral (expr : Expr) (dot : expr.takesDot = true) : expr.isNumeral = false := by
  cases expr with
  | literal value => simpa [takesDot] using dot
  | _ => rfl

/-- Whether the expression is a type that opens with a bracket or a keyword. -/
def isBareType : Expr → Bool
  | .arrayType _ _ | .mapType _ _ | .chanType _ _ => true
  | _ => false

theorem takesDot_of_isBareType (type : Expr) (isBare : type.isBareType = true) :
    type.takesDot = !type.endsInName := by
  cases type with
  | arrayType _ _ | mapType _ _ | chanType _ _ => rfl
  | _ => cases isBare

end Expr

/-- The places of the grammar where expressions and types stand. -/
inductive Form where
  /-- An operand with what stands behind it. -/
  | primary
  /-- A primary expression behind prefix operators. -/
  | unary
  /-- Operands joined by operators that bind at least as tightly as the floor. -/
  | binary (floor : Nat)
  | type
  /-- An argument or what stands in parentheses. -/
  | argument
  /-- A key or value of a composite literal. -/
  | element
  /-- An entry of a composite literal. -/
  | item

/-- A literal that is broken across lines has elements, and one that is not holds no line
break. -/
structure Flagged (elements : List Expr) (multiline : Bool) : Prop where
  filled : multiline = true → elements ≠ []
  flat : multiline = false → breaksIn (Expr.listPieces elements) = 0

/-- The trees that can stand at each place. -/
inductive Shaped : Form → Expr → Prop
  | name {name : Ident} (lexeme : Lexeme .identifier name.name.toList) :
      Shaped .primary (.ident name)
  | literal {value : Literal} (lexeme : Lexeme value.kind.kind value.text.toList) :
      Shaped .primary (.literal value)
  | paren {inner : Expr} (inside : Shaped .argument inner) : Shaped .primary (.paren inner)
  | bare {type : Expr} (isType : Shaped .type type) (isBare : type.isBareType = true) :
      Shaped .primary type
  | selector {base : Expr} {name : Ident} (primary : Shaped .primary base)
      (dot : base.takesDot = true) (lexeme : Lexeme .identifier name.name.toList) :
      Shaped .primary (.selector base name)
  | index {base position : Expr} (primary : Shaped .primary base)
      (inside : Shaped (.binary 1) position) : Shaped .primary (.index base position)
  | slice {base : Expr} {low high max : Option Expr} (primary : Shaped .primary base)
      (lower : ∀ e ∈ low, Shaped (.binary 1) e) (upper : ∀ e ∈ high, Shaped (.binary 1) e)
      (most : ∀ e ∈ max, Shaped (.binary 1) e) : Shaped .primary (.slice base low high max)
  | assertion {base : Expr} {type : Option Expr} (primary : Shaped .primary base)
      (dot : base.takesDot = true) (asserted : ∀ e ∈ type, Shaped .type e) :
      Shaped .primary (.assertion base type)
  | call {callee : Expr} {arguments : List Expr} (primary : Shaped .primary callee)
      (inside : ∀ e ∈ arguments, Shaped .argument e) :
      Shaped .primary (.call callee arguments false)
  | composite {type : Expr} {elements : List Expr} {multiline : Bool}
      (primary : Shaped .primary type) (isType : Grammar.isLiteralType type = true)
      (inside : ∀ e ∈ elements, Shaped .item e) (flagged : Flagged elements multiline) :
      Shaped .primary (.composite (some type) elements multiline)
  | operand {expr : Expr} (primary : Shaped .primary expr) : Shaped .unary expr
  | star {inner : Expr} (unary : Shaped .unary inner) : Shaped .unary (.star inner)
  | prefixed {op : UnaryOp} {operand : Expr} (unary : Shaped .unary operand)
      (noChannel : op = .receive → operand.lead? ≠ some .chanKw)
      (noOperator : op = .address → operand.isUnary .xor = false) :
      Shaped .unary (.unary op operand)
  | single {floor : Nat} {expr : Expr} (unary : Shaped .unary expr) :
      Shaped (.binary floor) expr
  | joined {floor : Nat} {left right : Expr} {op : BinaryOp} (binds : floor ≤ op.precedence)
      (before : Shaped (.binary op.precedence) left)
      (behind : Shaped (.binary (op.precedence + 1)) right) :
      Shaped (.binary floor) (.binary left op right)
  | typeName {name : Ident} (lexeme : Lexeme .identifier name.name.toList) :
      Shaped .type (.ident name)
  | qualified {package name : Ident} (packageLexeme : Lexeme .identifier package.name.toList)
      (lexeme : Lexeme .identifier name.name.toList) :
      Shaped .type (.selector (.ident package) name)
  | pointer {inner : Expr} (isType : Shaped .type inner) : Shaped .type (.star inner)
  | array {length : ArrayLength} {element : Expr}
      (size : ∀ e, length = .fixed e → Shaped (.binary 1) e) (isType : Shaped .type element) :
      Shaped .type (.arrayType length element)
  | map {key value : Expr} (keyType : Shaped .type key) (valueType : Shaped .type value) :
      Shaped .type (.mapType key value)
  | anyMap {key : Expr} (keyType : Shaped .type key) :
      Shaped .type (.mapType key (.interfaceType ⟨[], []⟩))
  | chan {direction : ChanDirection} {element : Expr} (isType : Shaped .type element)
      (noArrow : direction = .both → element.lead? ≠ some .arrow) :
      Shaped .type (.chanType direction element)
  | group {inner : Expr} (isType : Shaped .type inner) : Shaped .type (.paren inner)
  | plain {expr : Expr} (binary : Shaped (.binary 1) expr) (noChannel : expr.lead? ≠ some .chanKw) :
      Shaped .argument expr
  | channel {expr : Expr} (primary : Shaped .primary expr)
      (isChannel : expr.lead? = some .chanKw) : Shaped .argument expr
  | value {expr : Expr} (binary : Shaped (.binary 1) expr) : Shaped .element expr
  | elided {elements : List Expr} {multiline : Bool} (inside : ∀ e ∈ elements, Shaped .item e)
      (flagged : Flagged elements multiline) :
      Shaped .element (.composite none elements multiline)
  | entry {expr : Expr} (element : Shaped .element expr) : Shaped .item expr
  | pair {key value : Expr} (keyElement : Shaped .element key)
      (valueElement : Shaped .element value) : Shaped .item (.keyValue key value)

/-- A type that opens with another word than a name, a star or a parenthesis. -/
theorem Shaped.isBareType {type : Expr} {kind : Kind} (shaped : Shaped .type type)
    (lead : type.lead? = some kind) (opens : kind ∉ [.identifier, .star, .leftParen]) :
    type.isBareType = true := by
  cases shaped with
  | typeName | qualified | pointer | group => cases lead; simp at opens
  | array | map | anyMap | chan => rfl

end GoMend
