import GoMend.Proofs.Grammar.Rule

/-!
# Literals that stand clear of headers

In the header of a statement a brace behind a type name opens the block of the statement.  A tree
keeps to this if no header holds a literal with a plain or qualified type name, except where the
literal stands in brackets of its own or in the body of a function.
-/

namespace GoMend

/-- Where a part of a tree stands. -/
inductive Site where
  /-- In the header of a statement, and there neither in brackets nor in the body of a function. -/
  | header
  /-- Anywhere else. -/
  | free

mutual

/-- Where the expression stands, no brace in it is taken for that of a block. -/
inductive Expr.Kept : Site → Expr → Prop
  | ident {site : Site} (name : Ident) : Expr.Kept site (.ident name)
  | literal {site : Site} (literal : Literal) : Expr.Kept site (.literal literal)
  | composite {site : Site} {type : Option Expr} {elements : List Expr} (multiline : Bool)
      (clear : site = .header → ∀ named ∈ type, Grammar.isTypeName named = false)
      (typed : ∀ named ∈ type, Expr.Kept site named)
      (each : ∀ element ∈ elements, Expr.Kept .free element) :
      Expr.Kept site (.composite type elements multiline)
  | function {site : Site} {signature : Signature} {body : Block}
      (typed : Signature.Kept site signature) (bodied : Block.Kept .free body) :
      Expr.Kept site (.function signature body)
  | paren {site : Site} {inner : Expr} (inside : Expr.Kept .free inner) :
      Expr.Kept site (.paren inner)
  | selector {site : Site} {base : Expr} (name : Ident) (based : Expr.Kept site base) :
      Expr.Kept site (.selector base name)
  | index {site : Site} {base position : Expr} (based : Expr.Kept site base)
      (inside : Expr.Kept .free position) : Expr.Kept site (.index base position)
  | slice {site : Site} {base : Expr} {low high max : Option Expr}
      (based : Expr.Kept site base) (lower : ∀ bound ∈ low, Expr.Kept .free bound)
      (upper : ∀ bound ∈ high, Expr.Kept .free bound)
      (most : ∀ bound ∈ max, Expr.Kept .free bound) :
      Expr.Kept site (.slice base low high max)
  | assertion {site : Site} {base : Expr} {type : Option Expr} (based : Expr.Kept site base)
      (typed : ∀ asserted ∈ type, Expr.Kept site asserted) :
      Expr.Kept site (.assertion base type)
  | call {site : Site} {callee : Expr} {arguments : List Expr} (spread : Bool)
      (based : Expr.Kept site callee) (each : ∀ argument ∈ arguments, Expr.Kept .free argument) :
      Expr.Kept site (.call callee arguments spread)
  | star {site : Site} {inner : Expr} (inside : Expr.Kept site inner) :
      Expr.Kept site (.star inner)
  | unary {site : Site} {operand : Expr} (op : UnaryOp) (inside : Expr.Kept site operand) :
      Expr.Kept site (.unary op operand)
  | binary {site : Site} {left right : Expr} (op : BinaryOp) (before : Expr.Kept site left)
      (behind : Expr.Kept site right) : Expr.Kept site (.binary left op right)
  | keyValue {site : Site} {key value : Expr} (keyed : Expr.Kept site key)
      (valued : Expr.Kept site value) : Expr.Kept site (.keyValue key value)
  | arrayType {site : Site} {length : ArrayLength} {element : Expr}
      (sized : ∀ size, length = .fixed size → Expr.Kept .free size)
      (typed : Expr.Kept site element) : Expr.Kept site (.arrayType length element)
  | mapType {site : Site} {key value : Expr} (keyed : Expr.Kept site key)
      (valued : Expr.Kept site value) : Expr.Kept site (.mapType key value)
  | chanType {site : Site} {element : Expr} (direction : ChanDirection)
      (typed : Expr.Kept site element) : Expr.Kept site (.chanType direction element)
  | funcType {site : Site} {signature : Signature} (typed : Signature.Kept site signature) :
      Expr.Kept site (.funcType signature)
  | structType {site : Site} {fields : FieldList} (listed : FieldList.Kept site fields) :
      Expr.Kept site (.structType fields)
  | interfaceType {site : Site} {methods : FieldList} (listed : FieldList.Kept site methods) :
      Expr.Kept site (.interfaceType methods)
  | variadic {site : Site} {element : Expr} (typed : Expr.Kept site element) :
      Expr.Kept site (.variadic element)

/-- All types of the fields are kept. -/
inductive FieldList.Kept : Site → FieldList → Prop
  | mk {site : Site} {list : FieldList}
      (each : ∀ field ∈ list.fields, Expr.Kept site field.type) : FieldList.Kept site list

/-- The parameters stand in parentheses; a single result need not. -/
inductive Signature.Kept : Site → Signature → Prop
  | mk {site : Site} {signature : Signature} (taking : FieldList.Kept .free signature.params)
      (giving : ∀ results ∈ signature.results, FieldList.Kept site results) :
      Signature.Kept site signature

/-- The types and values of the entry are kept. -/
inductive Spec.Kept : Site → Spec → Prop
  | imported {site : Site} (spec : ImportSpec) : Spec.Kept site (.imported spec)
  | value {site : Site} {spec : ValueSpec} (typed : ∀ type ∈ spec.type, Expr.Kept site type)
      (each : ∀ value ∈ spec.values, Expr.Kept site value) : Spec.Kept site (.value spec)
  | type {site : Site} {spec : TypeSpec} (typed : Expr.Kept site spec.type) :
      Spec.Kept site (.type spec)

/-- All entries of the declaration are kept. -/
inductive GenDecl.Kept : Site → GenDecl → Prop
  | mk {site : Site} {decl : GenDecl} (each : ∀ spec ∈ decl.specs, Spec.Kept site spec) :
      GenDecl.Kept site decl

/-- All statements of the block are kept. -/
inductive Block.Kept : Site → Block → Prop
  | mk {site : Site} {block : Block} (each : ∀ stmt ∈ block.stmts, Stmt.Kept site stmt) :
      Block.Kept site block

/-- The statement is kept, whatever comments it has. -/
inductive Stmt.Kept : Site → Stmt → Prop
  | mk {site : Site} {stmt : Stmt} (kept : StmtKind.Kept site stmt.kind) : Stmt.Kept site stmt

/-- Whatever stands in the header of the statement is kept in a header, and the rest of it where
the statement stands. -/
inductive StmtKind.Kept : Site → StmtKind → Prop
  | decl {site : Site} {decl : GenDecl} (kept : GenDecl.Kept site decl) :
      StmtKind.Kept site (.decl decl)
  | empty {site : Site} : StmtKind.Kept site .empty
  | labeled {site : Site} {stmt : Stmt} (label : Ident) (kept : Stmt.Kept site stmt) :
      StmtKind.Kept site (.labeled label stmt)
  | expr {site : Site} {expr : Expr} (kept : Expr.Kept site expr) :
      StmtKind.Kept site (.expr expr)
  | send {site : Site} {channel value : Expr} (into : Expr.Kept site channel)
      (sent : Expr.Kept site value) : StmtKind.Kept site (.send channel value)
  | incDec {site : Site} {operand : Expr} (increment : Bool) (kept : Expr.Kept site operand) :
      StmtKind.Kept site (.incDec operand increment)
  | assign {site : Site} {targets values : List Expr} (op : AssignOp)
      (eachTarget : ∀ target ∈ targets, Expr.Kept site target)
      (eachValue : ∀ value ∈ values, Expr.Kept site value) :
      StmtKind.Kept site (.assign targets op values)
  | go {site : Site} {call : Expr} (kept : Expr.Kept site call) : StmtKind.Kept site (.go call)
  | defer {site : Site} {call : Expr} (kept : Expr.Kept site call) :
      StmtKind.Kept site (.defer call)
  | ret {site : Site} {results : List Expr} (each : ∀ result ∈ results, Expr.Kept site result) :
      StmtKind.Kept site (.ret results)
  | branch {site : Site} (keyword : BranchKeyword) (label : Option Ident) :
      StmtKind.Kept site (.branch keyword label)
  | block {site : Site} {block : Block} (kept : Block.Kept site block) :
      StmtKind.Kept site (.block block)
  | conditional {site : Site} {init : Option Stmt} {condition : Expr} {body : Block}
      {alternative : Option Stmt} (begun : ∀ stmt ∈ init, Stmt.Kept .header stmt)
      (tested : Expr.Kept .header condition) (bodied : Block.Kept site body)
      (otherwise : ∀ stmt ∈ alternative, Stmt.Kept site stmt) :
      StmtKind.Kept site (.conditional init condition body alternative)
  | switch {site : Site} {init : Option Stmt} {tag : Option Expr} {clauses : List CaseClause}
      (begun : ∀ stmt ∈ init, Stmt.Kept .header stmt)
      (tagged : ∀ expr ∈ tag, Expr.Kept .header expr)
      (each : ∀ clause ∈ clauses, CaseClause.Kept site clause) :
      StmtKind.Kept site (.switch init tag clauses)
  | typeSwitch {site : Site} {init : Option Stmt} {subject : Expr} {clauses : List CaseClause}
      (binding : Option Ident) (begun : ∀ stmt ∈ init, Stmt.Kept .header stmt)
      (guarded : Expr.Kept .header subject)
      (each : ∀ clause ∈ clauses, CaseClause.Kept site clause) :
      StmtKind.Kept site (.typeSwitch init binding subject clauses)
  | select {site : Site} {clauses : List CommClause}
      (each : ∀ clause ∈ clauses, CommClause.Kept site clause) :
      StmtKind.Kept site (.select clauses)
  | loop {site : Site} {init post : Option Stmt} {condition : Option Expr} {body : Block}
      (begun : ∀ stmt ∈ init, Stmt.Kept .header stmt)
      (tested : ∀ expr ∈ condition, Expr.Kept .header expr)
      (repeated : ∀ stmt ∈ post, Stmt.Kept .header stmt) (bodied : Block.Kept site body) :
      StmtKind.Kept site (.loop init condition post body)
  | range {site : Site} {key value : Option Expr} {subject : Expr} {body : Block}
      (define : Bool) (keyed : ∀ expr ∈ key, Expr.Kept .header expr)
      (valued : ∀ expr ∈ value, Expr.Kept .header expr) (ranged : Expr.Kept .header subject)
      (bodied : Block.Kept site body) :
      StmtKind.Kept site (.range key value define subject body)

/-- The cases and the body of the clause are kept. -/
inductive CaseClause.Kept : Site → CaseClause → Prop
  | mk {site : Site} {clause : CaseClause}
      (each : ∀ cases ∈ clause.list, ∀ expr ∈ cases, Expr.Kept site expr)
      (bodied : ∀ stmt ∈ clause.body, Stmt.Kept site stmt) : CaseClause.Kept site clause

/-- The communication and the body of the clause are kept. -/
inductive CommClause.Kept : Site → CommClause → Prop
  | mk {site : Site} {clause : CommClause}
      (awaited : ∀ stmt ∈ clause.comm, Stmt.Kept site stmt)
      (bodied : ∀ stmt ∈ clause.body, Stmt.Kept site stmt) : CommClause.Kept site clause

end

/-- The receiver, the signature and the body are kept. -/
structure FuncDecl.Kept (decl : FuncDecl) : Prop where
  receiver : ∀ list ∈ decl.receiver, list.Kept .free
  signature : decl.signature.Kept .free
  body : ∀ block ∈ decl.body, block.Kept .free

/-- The declaration is kept. -/
def Decl.Kept (site : Site) : Decl → Prop
  | .gen decl => decl.Kept site
  | .func decl => decl.Kept

/-- No header of a statement in the file swallows the block behind it. -/
def File.Kept (file : File) : Prop :=
  ∀ decl ∈ file.decls, decl.Kept .free

/-- A type holds no literal but in the lengths of arrays, so it is kept wherever it stands. -/
def Expr.KeptAnywhere (type : Expr) : Prop :=
  ∀ site, type.Kept site

end GoMend
