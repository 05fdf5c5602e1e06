import GoMend.Grammar.Parser

/-!
# Productions

The productions of the grammar that can contain one another.  Each has the type
of what it reads.  A production is written in terms of a reader for the
productions below it, so that none of them is recursive by itself.
-/

namespace GoMend

/-- A production that other productions refer to. -/
inductive Production where
  /-- Operands joined by operators that bind at least as tightly as the floor. -/
  | binary (floor : Nat)
  /-- What follows a left operand under the same floor. -/
  | binaryTail (floor : Nat) (left : Expr)
  /-- An operand behind prefix operators. -/
  | unary
  /-- Selectors, indices, assertions, calls and literal bodies behind an operand. -/
  | primaryTail (operand : Expr)
  /-- Further expressions of a list, each behind a comma. -/
  | exprTail
  /-- The arguments of a call, with whether one of them is spread. -/
  | arguments
  /-- The elements of a composite literal. -/
  | elements
  /-- A key or value of a composite literal, whose type may be left out. -/
  | element
  | type
  /-- Entries of a parameter list: one type, or a name and a type. -/
  | params
  | structFields
  | interfaceMembers
  | block
  | stmts
  | stmt
  | conditional
  | caseClauses
  | commClauses
  /-- Further names of a list, each behind a comma. -/
  | identTail
  | specs (keyword : DeclKeyword)
  | imports
  | decls

namespace Production

/-- What a production reads. -/
@[reducible] def Result : Production → Type
  | .binary _ => Expr
  | .binaryTail _ _ => Expr
  | .unary => Expr
  | .primaryTail _ => Expr
  | .exprTail => List Expr
  | .arguments => List Expr × Bool
  | .elements => List Expr
  | .element => Expr
  | .type => Expr
  | .params => List (Expr × Option Expr)
  | .structFields => List Field
  | .interfaceMembers => List Field
  | .block => Block
  | .stmts => List Stmt
  | .stmt => StmtKind
  | .conditional => StmtKind
  | .caseClauses => List CaseClause
  | .commClauses => List CommClause
  | .identTail => List Ident
  | .specs _ => List Spec
  | .imports => List Decl
  | .decls => List Decl

end Production

/-- A reader for every production. -/
abbrev Reader := (production : Production) → Parser production.Result

end GoMend
