import GoMend.Syntax.Operator
import GoMend.Text.Blank
import GoMend.Text.Uppercase

/-!
# The syntax tree of a Go file

A file is a package clause followed by declarations.  A node that was read from a
text carries the byte offset of its first token; a node that was built carries
none.  Comments hang on the node that they stand before or behind, and those
before a closing bracket on the bracketed list.

The types are wider than the grammar: a tree that was read satisfies more than
they say.
-/

namespace GoMend

/-- A comment with its delimiters. -/
structure Comment where
  text : String
  offset : Option Nat
  deriving DecidableEq, Repr

namespace Comment

/-- A comment that ends with its line. -/
def isLine (comment : Comment) : Bool :=
  comment.text.startsWith "//"

end Comment

/-- One occurrence of a name.  After a qualification the name holds a dot; it is
written as it stands and read back as a selector. -/
structure Ident where
  name : String
  offset : Option Nat
  deriving DecidableEq, Repr

namespace Ident

/-- The name that binds nothing. -/
def isBlank (ident : Ident) : Bool :=
  ident.name == "_"

/-- Exported names begin with an upper-case letter. -/
def isExported (ident : Ident) : Bool :=
  match ident.name.toList with
  | [] => false
  | c :: _ => Text.isUppercase c

/-- The name behind the last dot, which is the whole name if it has none. -/
def localName (ident : Ident) : String :=
  String.ofList (ident.name.toList.reverse.takeWhile (· != '.')).reverse

/-- The name up to the first dot: the package part of a qualified name. -/
def headName (ident : Ident) : String :=
  String.ofList (ident.name.toList.takeWhile (· != '.'))

end Ident

/-- The kind of a literal. -/
inductive LiteralKind where
  | int | float | imaginary | char | string
  deriving DecidableEq, Repr

namespace LiteralKind

/-- The kind of literal that a token is. -/
def ofKind? : Kind → Option LiteralKind
  | .int => some .int
  | .float => some .float
  | .imaginary => some .imaginary
  | .char => some .char
  | .string => some .string
  | _ => none

/-- The category of the token that a literal is. -/
def kind : LiteralKind → Kind
  | .int => .int
  | .float => .float
  | .imaginary => .imaginary
  | .char => .char
  | .string => .string

end LiteralKind

/-- A literal in the words of the source, quotes included. -/
structure Literal where
  kind : LiteralKind
  text : String
  offset : Option Nat
  deriving DecidableEq, Repr

/-- What a declaration with specs declares. -/
inductive DeclKeyword where
  | imports | consts | types | vars
  deriving DecidableEq, Repr

namespace DeclKeyword

/-- The keyword that opens the declaration. -/
def kind : DeclKeyword → Kind
  | .imports => .importKw
  | .consts => .constKw
  | .types => .typeKw
  | .vars => .varKw

end DeclKeyword

/-- The keyword of a jump. -/
inductive BranchKeyword where
  | leave | next | jump | fall
  deriving DecidableEq, Repr

namespace BranchKeyword

/-- The token that spells the keyword. -/
def kind : BranchKeyword → Kind
  | .leave => .breakKw
  | .next => .continueKw
  | .jump => .gotoKw
  | .fall => .fallthroughKw

end BranchKeyword

/-- Which ends of a channel a type gives access to. -/
inductive ChanDirection where
  | both | send | receive
  deriving DecidableEq, Repr

/-- An entry of an import declaration. -/
structure ImportSpec where
  doc : List Comment
  name : Option Ident
  path : Literal
  comment : Option Comment
  deriving DecidableEq, Repr

namespace ImportSpec

/-- The imported path without its quotes. -/
def pathValue (spec : ImportSpec) : String :=
  Text.trimBy (fun c => c == '"' || c == '`') spec.path.text

end ImportSpec

mutual

/-- A parameter, result, struct field or interface method.  An embedded field and
an unnamed parameter have no names. -/
structure Field where
  doc : List Comment
  names : List Ident
  type : Expr
  tag : Option Literal
  comment : Option Comment

/-- A bracketed list of fields with the comments before its closing bracket. -/
structure FieldList where
  fields : List Field
  closing : List Comment

/-- The parameters and results of a function. -/
structure Signature where
  params : FieldList
  results : Option FieldList

/-- The length of an array type; a slice type has none. -/
inductive ArrayLength where
  | slice
  | inferred
  | fixed (size : Expr)

/-- An expression or a type. -/
inductive Expr where
  | ident (ident : Ident)
  | literal (literal : Literal)
  /-- `T{...}`; inside another such literal the type may be left out. -/
  | composite (type : Option Expr) (elements : List Expr) (multiline : Bool)
  | function (signature : Signature) (body : Block)
  | paren (inner : Expr)
  | selector (base : Expr) (name : Ident)
  | index (base position : Expr)
  | slice (base : Expr) (low high max : Option Expr)
  /-- `x.(T)`, or `x.(type)` without a type. -/
  | assertion (base : Expr) (type : Option Expr)
  /-- A call; `spread` tells of `...` behind the last argument. -/
  | call (callee : Expr) (arguments : List Expr) (spread : Bool)
  /-- A pointer type or a dereference. -/
  | star (inner : Expr)
  | unary (op : UnaryOp) (operand : Expr)
  | binary (left : Expr) (op : BinaryOp) (right : Expr)
  | keyValue (key value : Expr)
  | arrayType (length : ArrayLength) (element : Expr)
  | mapType (key value : Expr)
  | chanType (direction : ChanDirection) (element : Expr)
  | funcType (signature : Signature)
  | structType (fields : FieldList)
  | interfaceType (methods : FieldList)
  /-- `...T` in a parameter list. -/
  | variadic (element : Expr)

/-- An entry of a constant or variable declaration. -/
structure ValueSpec where
  doc : List Comment
  names : List Ident
  type : Option Expr
  values : List Expr
  comment : Option Comment

/-- An entry of a type declaration. -/
structure TypeSpec where
  doc : List Comment
  name : Ident
  isAlias : Bool
  type : Expr
  comment : Option Comment

/-- An entry of a declaration. -/
inductive Spec where
  | imported (spec : ImportSpec)
  | value (spec : ValueSpec)
  | type (spec : TypeSpec)

/-- A declaration of imports, constants, types or variables. -/
structure GenDecl where
  doc : List Comment
  keyword : DeclKeyword
  grouped : Bool
  specs : List Spec
  offset : Option Nat

/-- A list of statements in braces. -/
structure Block where
  stmts : List Stmt
  closing : List Comment

/-- A statement with its comments. -/
structure Stmt where
  doc : List Comment
  kind : StmtKind
  comment : Option Comment

/-- A statement without comments. -/
inductive StmtKind where
  | decl (decl : GenDecl)
  | empty
  | labeled (label : Ident) (stmt : Stmt)
  | expr (expr : Expr)
  | send (channel value : Expr)
  | incDec (operand : Expr) (increment : Bool)
  | assign (targets : List Expr) (op : AssignOp) (values : List Expr)
  | go (call : Expr)
  | defer (call : Expr)
  | ret (results : List Expr)
  | branch (keyword : BranchKeyword) (label : Option Ident)
  | block (block : Block)
  /-- The alternative is another conditional or a block. -/
  | conditional (init : Option Stmt) (condition : Expr) (body : Block)
      (alternative : Option Stmt)
  | switch (init : Option Stmt) (tag : Option Expr) (clauses : List CaseClause)
  /-- A switch on the type of the subject, perhaps bound to a name. -/
  | typeSwitch (init : Option Stmt) (binding : Option Ident) (subject : Expr)
      (clauses : List CaseClause)
  | select (clauses : List CommClause)
  | loop (init : Option Stmt) (condition : Option Expr) (post : Option Stmt) (body : Block)
  | range (key value : Option Expr) (define : Bool) (subject : Expr) (body : Block)

/-- A clause of a switch; the default clause has no list. -/
structure CaseClause where
  doc : List Comment
  list : Option (List Expr)
  body : List Stmt

/-- A clause of a select statement; the default clause has no communication. -/
structure CommClause where
  doc : List Comment
  comm : Option Stmt
  body : List Stmt

end

/-- A function or, with a receiver, a method. -/
structure FuncDecl where
  doc : List Comment
  receiver : Option FieldList
  name : Ident
  signature : Signature
  body : Option Block

/-- A top-level declaration. -/
inductive Decl where
  | gen (decl : GenDecl)
  | func (decl : FuncDecl)

/-- A source file: the comments above the package clause, the package clause, the
declarations, and the comments behind the last of them. -/
structure File where
  doc : List Comment
  package : Ident
  decls : List Decl
  trailing : List Comment

namespace FieldList

/-- How many names the list declares, an unnamed entry counted once. -/
def arity (list : FieldList) : Nat :=
  list.fields.foldr (fun field count => max field.names.length 1 + count) 0

end FieldList

namespace Expr

/-- The identifier that an expression consists of. -/
def ident? : Expr → Option Ident
  | .ident name => some name
  | _ => none

/-- The expression inside any number of parentheses. -/
def unparen : Expr → Expr
  | .paren inner => inner.unparen
  | expr => expr

/-- The name by which an embedded field of this type is reached: the type name
without pointers and without a package. -/
def embeddedName? : Expr → Option String
  | .star inner => inner.embeddedName?
  | .ident name => some name.localName
  | .selector _ name => some name.name
  | _ => none

end Expr

namespace Field

/-- The name by which an embedded field is reached. -/
def embeddedName? (field : Field) : Option String :=
  if field.names.isEmpty then field.type.embeddedName? else none

/-- Whether one of the names of the field line is the given one. -/
def names? (field : Field) (name : String) : Bool :=
  field.names.any (·.name == name)

/-- Whether the field declares or embeds the name. -/
def declares (field : Field) (name : String) : Bool :=
  field.names? name || field.embeddedName? == some name

end Field

namespace TypeSpec

/-- Whether a struct type is declared. -/
def isStruct (spec : TypeSpec) : Bool :=
  match spec.type with
  | .structType _ => true
  | _ => false

end TypeSpec

namespace Stmt

/-- A statement without comments around it. -/
def bare (kind : StmtKind) : Stmt :=
  { doc := [], kind, comment := none }

end Stmt

namespace StmtKind

/-- The statement that consists of no token. -/
def isEmpty : StmtKind → Bool
  | .empty => true
  | _ => false

end StmtKind

namespace File

/-- The entries of all import declarations, in order. -/
def imports (file : File) : List ImportSpec :=
  file.decls.flatMap fun
    | .gen decl =>
        if decl.keyword = .imports then
          decl.specs.filterMap fun
            | .imported spec => some spec
            | _ => none
        else []
    | .func _ => []

end File

end GoMend
