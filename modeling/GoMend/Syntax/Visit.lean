import GoMend.Syntax.Tree

/-!
# Visiting names

A visit meets every name of a tree in document order, carries what it has seen from one to the
next, and puts the name that it decides on in the place of each.
-/

namespace GoMend

universe u

mutual

/-- Visit an expression or a type. -/
def Expr.visit {m : Type → Type u} [Monad m] (meet : Ident → m Ident) : Expr → m Expr
  | .ident name => do return .ident (← meet name)
  | .literal value => pure (.literal value)
  | .composite type elements multiline => do
      let type ← Expr.visitOptional meet type
      return .composite type (← Expr.visitAll meet elements) multiline
  | .function signature body => do
      let signature ← signature.visit meet
      return .function signature (← body.visit meet)
  | .paren inner => do return .paren (← inner.visit meet)
  | .selector base name => do
      let base ← base.visit meet
      return .selector base (← meet name)
  | .index base position => do
      let base ← base.visit meet
      return .index base (← position.visit meet)
  | .slice base low high max => do
      let base ← base.visit meet
      let low ← Expr.visitOptional meet low
      let high ← Expr.visitOptional meet high
      let max ← Expr.visitOptional meet max
      return .slice base low high max
  | .assertion base type => do
      let base ← base.visit meet
      let type ← Expr.visitOptional meet type
      return .assertion base type
  | .call callee arguments spread => do
      let callee ← callee.visit meet
      return .call callee (← Expr.visitAll meet arguments) spread
  | .star inner => do return .star (← inner.visit meet)
  | .unary op operand => do return .unary op (← operand.visit meet)
  | .binary left op right => do
      let left ← left.visit meet
      return .binary left op (← right.visit meet)
  | .keyValue key value => do
      let key ← key.visit meet
      return .keyValue key (← value.visit meet)
  | .arrayType length element => do
      let length ← length.visit meet
      return .arrayType length (← element.visit meet)
  | .mapType key value => do
      let key ← key.visit meet
      return .mapType key (← value.visit meet)
  | .chanType direction element => do return .chanType direction (← element.visit meet)
  | .funcType signature => do return .funcType (← signature.visit meet)
  | .structType fields => do return .structType (← fields.visit meet)
  | .interfaceType methods => do return .interfaceType (← methods.visit meet)
  | .variadic element => do return .variadic (← element.visit meet)
termination_by structural expr => expr

/-- Visit an expression, if there is one. -/
def Expr.visitOptional {m : Type → Type u} [Monad m] (meet : Ident → m Ident) :
    Option Expr → m (Option Expr)
  | none => pure none
  | some expr => do return some (← expr.visit meet)
termination_by structural expr => expr

/-- Visit the expressions of a list. -/
def Expr.visitAll {m : Type → Type u} [Monad m] (meet : Ident → m Ident) :
    List Expr → m (List Expr)
  | [] => pure []
  | expr :: rest => do
      let expr ← expr.visit meet
      return expr :: (← Expr.visitAll meet rest)
termination_by structural exprs => exprs

/-- Visit the expressions of a list, if there is one. -/
def Expr.visitAllOptional {m : Type → Type u} [Monad m] (meet : Ident → m Ident) :
    Option (List Expr) → m (Option (List Expr))
  | none => pure none
  | some exprs => do return some (← Expr.visitAll meet exprs)
termination_by structural exprs => exprs

/-- Visit the length of an array type. -/
def ArrayLength.visit {m : Type → Type u} [Monad m] (meet : Ident → m Ident) :
    ArrayLength → m ArrayLength
  | .slice => pure .slice
  | .inferred => pure .inferred
  | .fixed size => do return .fixed (← size.visit meet)
termination_by structural length => length

/-- Visit a field. -/
def Field.visit {m : Type → Type u} [Monad m] (meet : Ident → m Ident) : Field → m Field
  | ⟨doc, names, type, tag, comment⟩ => do
      let names ← names.mapM meet
      return ⟨doc, names, ← type.visit meet, tag, comment⟩
termination_by structural field => field

/-- Visit the fields of a list. -/
def Field.visitAll {m : Type → Type u} [Monad m] (meet : Ident → m Ident) :
    List Field → m (List Field)
  | [] => pure []
  | field :: rest => do
      let field ← field.visit meet
      return field :: (← Field.visitAll meet rest)
termination_by structural fields => fields

/-- Visit a bracketed list of fields. -/
def FieldList.visit {m : Type → Type u} [Monad m] (meet : Ident → m Ident) :
    FieldList → m FieldList
  | ⟨fields, closing⟩ => do return ⟨← Field.visitAll meet fields, closing⟩
termination_by structural list => list

/-- Visit a bracketed list of fields, if there is one. -/
def FieldList.visitOptional {m : Type → Type u} [Monad m] (meet : Ident → m Ident) :
    Option FieldList → m (Option FieldList)
  | none => pure none
  | some list => do return some (← list.visit meet)
termination_by structural list => list

/-- Visit the parameters and results of a function. -/
def Signature.visit {m : Type → Type u} [Monad m] (meet : Ident → m Ident) :
    Signature → m Signature
  | ⟨params, results⟩ => do
      let params ← params.visit meet
      let results ← FieldList.visitOptional meet results
      return ⟨params, results⟩
termination_by structural signature => signature

/-- Visit an entry of a constant or variable declaration. -/
def ValueSpec.visit {m : Type → Type u} [Monad m] (meet : Ident → m Ident) :
    ValueSpec → m ValueSpec
  | ⟨doc, names, type, values, comment⟩ => do
      let names ← names.mapM meet
      let type ← Expr.visitOptional meet type
      return ⟨doc, names, type, ← Expr.visitAll meet values, comment⟩
termination_by structural spec => spec

/-- Visit an entry of a type declaration. -/
def TypeSpec.visit {m : Type → Type u} [Monad m] (meet : Ident → m Ident) :
    TypeSpec → m TypeSpec
  | ⟨doc, name, isAlias, type, comment⟩ => do
      let name ← meet name
      return ⟨doc, name, isAlias, ← type.visit meet, comment⟩
termination_by structural spec => spec

/-- Visit an entry of a declaration. -/
def Spec.visit {m : Type → Type u} [Monad m] (meet : Ident → m Ident) : Spec → m Spec
  | .imported spec => do
      let name ← spec.name.mapM meet
      return .imported { spec with name }
  | .value spec => do return .value (← spec.visit meet)
  | .type spec => do return .type (← spec.visit meet)
termination_by structural spec => spec

/-- Visit the entries of a declaration. -/
def Spec.visitAll {m : Type → Type u} [Monad m] (meet : Ident → m Ident) :
    List Spec → m (List Spec)
  | [] => pure []
  | spec :: rest => do
      let spec ← spec.visit meet
      return spec :: (← Spec.visitAll meet rest)
termination_by structural specs => specs

/-- Visit a declaration. -/
def GenDecl.visit {m : Type → Type u} [Monad m] (meet : Ident → m Ident) : GenDecl → m GenDecl
  | ⟨doc, keyword, grouped, specs, offset⟩ => do
      return ⟨doc, keyword, grouped, ← Spec.visitAll meet specs, offset⟩
termination_by structural decl => decl

/-- Visit a block. -/
def Block.visit {m : Type → Type u} [Monad m] (meet : Ident → m Ident) : Block → m Block
  | ⟨stmts, closing⟩ => do return ⟨← Stmt.visitAll meet stmts, closing⟩
termination_by structural block => block

/-- Visit the statements of a list. -/
def Stmt.visitAll {m : Type → Type u} [Monad m] (meet : Ident → m Ident) :
    List Stmt → m (List Stmt)
  | [] => pure []
  | stmt :: rest => do
      let stmt ← stmt.visit meet
      return stmt :: (← Stmt.visitAll meet rest)
termination_by structural stmts => stmts

/-- Visit a statement. -/
def Stmt.visit {m : Type → Type u} [Monad m] (meet : Ident → m Ident) : Stmt → m Stmt
  | ⟨doc, kind, comment⟩ => do return ⟨doc, ← kind.visit meet, comment⟩
termination_by structural stmt => stmt

/-- Visit a statement, if there is one. -/
def Stmt.visitOptional {m : Type → Type u} [Monad m] (meet : Ident → m Ident) :
    Option Stmt → m (Option Stmt)
  | none => pure none
  | some stmt => do return some (← stmt.visit meet)
termination_by structural stmt => stmt

/-- Visit a statement without its comments. -/
def StmtKind.visit {m : Type → Type u} [Monad m] (meet : Ident → m Ident) :
    StmtKind → m StmtKind
  | .decl decl => do return .decl (← decl.visit meet)
  | .empty => pure .empty
  | .labeled label stmt => do
      let label ← meet label
      return .labeled label (← stmt.visit meet)
  | .expr expr => do return .expr (← expr.visit meet)
  | .send channel value => do
      let channel ← channel.visit meet
      return .send channel (← value.visit meet)
  | .incDec operand increment => do return .incDec (← operand.visit meet) increment
  | .assign targets op values => do
      let targets ← Expr.visitAll meet targets
      return .assign targets op (← Expr.visitAll meet values)
  | .go call => do return .go (← call.visit meet)
  | .defer call => do return .defer (← call.visit meet)
  | .ret results => do return .ret (← Expr.visitAll meet results)
  | .branch keyword label => do
      let label ← label.mapM meet
      return .branch keyword label
  | .block block => do return .block (← block.visit meet)
  | .conditional init condition body alternative => do
      let init ← Stmt.visitOptional meet init
      let condition ← condition.visit meet
      let body ← body.visit meet
      let alternative ← Stmt.visitOptional meet alternative
      return .conditional init condition body alternative
  | .switch init tag clauses => do
      let init ← Stmt.visitOptional meet init
      let tag ← Expr.visitOptional meet tag
      return .switch init tag (← CaseClause.visitAll meet clauses)
  | .typeSwitch init binding subject clauses => do
      let init ← Stmt.visitOptional meet init
      let binding ← binding.mapM meet
      let subject ← subject.visit meet
      return .typeSwitch init binding subject (← CaseClause.visitAll meet clauses)
  | .select clauses => do return .select (← CommClause.visitAll meet clauses)
  | .loop init condition post body => do
      let init ← Stmt.visitOptional meet init
      let condition ← Expr.visitOptional meet condition
      let post ← Stmt.visitOptional meet post
      return .loop init condition post (← body.visit meet)
  | .range key value define subject body => do
      let key ← Expr.visitOptional meet key
      let value ← Expr.visitOptional meet value
      let subject ← subject.visit meet
      return .range key value define subject (← body.visit meet)
termination_by structural kind => kind

/-- Visit the clauses of a switch. -/
def CaseClause.visitAll {m : Type → Type u} [Monad m] (meet : Ident → m Ident) :
    List CaseClause → m (List CaseClause)
  | [] => pure []
  | ⟨doc, list, body⟩ :: rest => do
      let list ← Expr.visitAllOptional meet list
      let body ← Stmt.visitAll meet body
      return ⟨doc, list, body⟩ :: (← CaseClause.visitAll meet rest)
termination_by structural clauses => clauses

/-- Visit the clauses of a select statement. -/
def CommClause.visitAll {m : Type → Type u} [Monad m] (meet : Ident → m Ident) :
    List CommClause → m (List CommClause)
  | [] => pure []
  | ⟨doc, comm, body⟩ :: rest => do
      let comm ← Stmt.visitOptional meet comm
      let body ← Stmt.visitAll meet body
      return ⟨doc, comm, body⟩ :: (← CommClause.visitAll meet rest)
termination_by structural clauses => clauses

end

/-- Visit a block, if there is one. -/
def Block.visitOptional {m : Type → Type u} [Monad m] (meet : Ident → m Ident) :
    Option Block → m (Option Block)
  | none => pure none
  | some block => do return some (← block.visit meet)

/-- Visit a function or method. -/
def FuncDecl.visit {m : Type → Type u} [Monad m] (meet : Ident → m Ident) (decl : FuncDecl) :
    m FuncDecl := do
  let receiver ← FieldList.visitOptional meet decl.receiver
  let name ← meet decl.name
  let signature ← decl.signature.visit meet
  let body ← Block.visitOptional meet decl.body
  return { doc := decl.doc, receiver, name, signature, body }

/-- Visit a top-level declaration. -/
def Decl.visit {m : Type → Type u} [Monad m] (meet : Ident → m Ident) : Decl → m Decl
  | .gen decl => do return .gen (← decl.visit meet)
  | .func decl => do return .func (← decl.visit meet)

/-- Visit the top-level declarations of a list. -/
def Decl.visitAll {m : Type → Type u} [Monad m] (meet : Ident → m Ident) :
    List Decl → m (List Decl)
  | [] => pure []
  | decl :: rest => do
      let decl ← decl.visit meet
      return decl :: (← Decl.visitAll meet rest)

namespace File

/-- Visit a file. -/
def visit {m : Type → Type u} [Monad m] (meet : Ident → m Ident) (file : File) : m File := do
  let package ← meet file.package
  return { file with package, decls := ← Decl.visitAll meet file.decls }

/-- Change a name unless one was changed before. -/
def meetFirst (change : Ident → Option Ident) (ident : Ident) : StateM Bool Ident := do
  if ← get then return ident
  else
    match change ident with
    | some changed => do
        set true
        return changed
    | none => return ident

/-- Change the first name that the change applies to. -/
def changeFirst (change : Ident → Option Ident) (file : File) : File :=
  ((file.visit (meetFirst change)).run false).1

end File

end GoMend
