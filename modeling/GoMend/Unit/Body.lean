import GoMend.Fault
import GoMend.Syntax.Build

/-!
# Function bodies

Queries and edits on the statements that stand directly in a body: the first
return and the first assignment, and what a return hands out.
-/

namespace GoMend

namespace Expr

/-- The operator and operand of an expression that consists of one operator. -/
def unary? : Expr → Option (UnaryOp × Expr)
  | .unary op operand => some (op, operand)
  | _ => none

/-- The elements of a composite literal. -/
def elements? : Expr → Option (List Expr)
  | .composite _ elements _ => some elements
  | _ => none

/-- Change the elements of a composite literal. -/
def mapElements (change : List Expr → List Expr) : Expr → Expr
  | .composite type elements multiline => .composite type (change elements) multiline
  | expr => expr

/-- Whether an element has the name as its key. -/
def hasKey (name : String) : Expr → Bool
  | .keyValue (.ident key) _ => key.name == name
  | _ => false

/-- The first identifier among several expressions. -/
def firstIdent? (exprs : List Expr) : Option Ident :=
  exprs.findSome? ident?

/-- The first expression that consists of one operator, in parts. -/
def firstUnary? (exprs : List Expr) : Option (UnaryOp × Expr) :=
  exprs.findSome? unary?

/-- Change the first expression that consists of one operator. -/
def mapFirstUnary (change : UnaryOp → Expr → Expr) : List Expr → List Expr
  | [] => []
  | .unary op operand :: rest => change op operand :: rest
  | expr :: rest => expr :: mapFirstUnary change rest

/-- The place of the first element with the name as its key. -/
def keyIndex? (name : String) (elements : List Expr) : Option Nat :=
  elements.findIdx? (hasKey name)

/-- Remove the first element with the name as its key. -/
def dropKey (name : String) (elements : List Expr) : List Expr :=
  elements.eraseP (hasKey name)

end Expr

namespace StmtKind

/-- The results of a return statement. -/
def results? : StmtKind → Option (List Expr)
  | .ret results => some results
  | _ => none

/-- The parts of an assignment or a short declaration. -/
def assignment? : StmtKind → Option (List Expr × AssignOp × List Expr)
  | .assign targets op values => some (targets, op, values)
  | _ => none

end StmtKind

namespace Block

/-- The results of the first return statement directly in the body. -/
def firstReturn? (body : Block) : Option (List Expr) :=
  body.stmts.findSome? (·.kind.results?)

/-- The first assignment or short declaration directly in the body. -/
def firstAssignment? (body : Block) : Option (List Expr × AssignOp × List Expr) :=
  body.stmts.findSome? (·.kind.assignment?)

/-- Change the results of the first return statement among statements. -/
def mapReturn (change : List Expr → List Expr) : List Stmt → List Stmt
  | [] => []
  | ⟨doc, .ret results, comment⟩ :: rest => ⟨doc, .ret (change results), comment⟩ :: rest
  | stmt :: rest => stmt :: mapReturn change rest

/-- Change the results of the first return statement directly in the body. -/
def mapFirstReturn (change : List Expr → List Expr) (body : Block) : Block :=
  { body with stmts := mapReturn change body.stmts }

/-- Neither statements nor comments. -/
def blank : Block :=
  { stmts := [], closing := [] }

/-- Append a statement. -/
def append (stmt : Stmt) (body : Block) : Block :=
  { body with stmts := body.stmts ++ [stmt] }

end Block

namespace FuncDecl

/-- Whether the function has a receiver. -/
def isMethod (decl : FuncDecl) : Bool :=
  decl.receiver.isSome

/-- Change the declared name. -/
def rename (name : String) (decl : FuncDecl) : FuncDecl :=
  { decl with name := { decl.name with name } }

/-- The body, which a function that is declared elsewhere lacks. -/
def demandBody (decl : FuncDecl) : Except Fault Block :=
  match decl.body with
  | some body => .ok body
  | none => .error (.missingBody decl.name.name)

/-- Change the body. -/
def withBody (body : Block) (decl : FuncDecl) : FuncDecl :=
  { decl with body := some body }

end FuncDecl

end GoMend
