import GoMend.Proofs.Formed.Heads
import GoMend.Proofs.Parens.Paths

/-!
# Well-formed trees

The types of trees are wider than the grammar.  A well-formed tree holds nothing that the grammar
has no text for: each of its nodes stands in a place that takes it, the lists that must not be
empty are not, and operators and operands nest as the precedence of the operators has it.  The lists
of a signature have the entries that stand in the text at their own place: behind the keyword of the
function, or behind the name of the method.
-/

namespace GoMend

/-- What an expression stands as. -/
inductive ExprRole where
  /-- An expression or a type of its own. -/
  | value
  /-- A key or value in a composite literal. -/
  | element
  /-- An entry of a composite literal. -/
  | item
  /-- The type of a receiver, parameter or result. -/
  | entry

/-- What a list of fields stands as. -/
inductive FieldRole where
  /-- A receiver, parameters or results. -/
  | signature
  | struct
  | interface
  deriving DecidableEq

/-- What a statement stands as. -/
inductive StmtRole where
  /-- One of the statements of a block or clause. -/
  | listed
  /-- A part of another statement, or what a clause waits for. -/
  | inner

namespace Expr

/-- Whether something may stand directly behind the expression: an operator in front of it, or one
between it and another operand, would take that for its own operand. -/
def isOperand : Expr → Bool
  | .binary _ _ _ | .unary _ _ | .star _ => false
  | _ => true

/-- Whether the operator that the expression is joined by, if any, binds as tightly as the floor. -/
def binds (floor : Nat) : Expr → Prop
  | .binary _ op _ => floor ≤ op.precedence
  | _ => True

/-- Whether a struct can embed the type: a name or a pointer to one. -/
def isEmbeddable : Expr → Bool
  | .star inner => Grammar.isTypeName inner
  | type => Grammar.isTypeName type

end Expr

namespace StmtKind

/-- Whether the statement may stand behind an else: a conditional or a block. -/
def isAlternative : StmtKind → Bool
  | .conditional _ _ _ _ | .block _ => true
  | _ => false

end StmtKind

/-- The signature is made of the words behind its name in the source. -/
def Signature.Follows (source : List Token) (name : Ident) (signature : Signature) : Prop :=
  ∃ token words, token :: words <:+: source ∧ token.kind = .identifier ∧ token.toIdent = name ∧
    signature.MadeOf words

namespace Field

/-- Whether the names in front of the type are such as the list takes. -/
def Named (source : List Token) (role : FieldRole) (field : Field) : Prop :=
  match role with
  | .signature => True
  | .struct => field.names = [] → field.type.isEmbeddable = true
  | .interface =>
      field.names = [] ∨ ∃ name signature, field.names = [name] ∧
        field.type = .funcType signature ∧ signature.Follows source name

end Field

/-- Either all fields of a signature have names or none has. -/
def FieldList.Uniform (role : FieldRole) (list : FieldList) : Prop :=
  role = .signature →
    (∀ field ∈ list.fields, field.names ≠ []) ∨ ∀ field ∈ list.fields, field.names = []

/-- What the types of the fields stand as. -/
def FieldRole.types : FieldRole → ExprRole
  | .signature => .entry
  | .struct | .interface => .value

mutual

/-- The expression is well-formed as what it stands as. -/
inductive Expr.Formed (source : List Token) : ExprRole → Expr → Prop
  | ident (name : Ident) : Expr.Formed source .value (.ident name)
  | literal (literal : Literal) : Expr.Formed source .value (.literal literal)
  | composite {type : Expr} {elements : List Expr} (multiline : Bool)
      (typed : Expr.Formed source .value type)
      (each : ∀ item ∈ elements, Expr.Formed source .item item) :
      Expr.Formed source .value (.composite (some type) elements multiline)
  | function {signature : Signature} {body : Block} (typed : Signature.Formed source signature)
      (bodied : Block.Formed source body) : Expr.Formed source .value (.function signature body)
  | paren {inner : Expr} (inside : Expr.Formed source .value inner) :
      Expr.Formed source .value (.paren inner)
  | selector {base : Expr} (name : Ident) (based : Expr.Formed source .value base)
      (operand : base.isOperand = true) : Expr.Formed source .value (.selector base name)
  | index {base position : Expr} (based : Expr.Formed source .value base)
      (operand : base.isOperand = true) (placed : Expr.Formed source .value position) :
      Expr.Formed source .value (.index base position)
  | slice {base : Expr} {low high max : Option Expr} (based : Expr.Formed source .value base)
      (operand : base.isOperand = true) (lower : ∀ bound ∈ low, Expr.Formed source .value bound)
      (upper : ∀ bound ∈ high, Expr.Formed source .value bound)
      (most : ∀ bound ∈ max, Expr.Formed source .value bound) :
      Expr.Formed source .value (.slice base low high max)
  | assertion {base : Expr} {type : Option Expr} (based : Expr.Formed source .value base)
      (operand : base.isOperand = true)
      (typed : ∀ asserted ∈ type, Expr.Formed source .value asserted) :
      Expr.Formed source .value (.assertion base type)
  | call {callee : Expr} {arguments : List Expr} {spread : Bool}
      (based : Expr.Formed source .value callee) (operand : callee.isOperand = true)
      (each : ∀ argument ∈ arguments, Expr.Formed source .value argument)
      (last : spread = true → arguments ≠ []) :
      Expr.Formed source .value (.call callee arguments spread)
  | star {inner : Expr} (inside : Expr.Formed source .value inner)
      (tight : inner.isBinary = false) :
      Expr.Formed source .value (.star inner)
  | unary {operand : Expr} (op : UnaryOp) (inside : Expr.Formed source .value operand)
      (tight : operand.isBinary = false) : Expr.Formed source .value (.unary op operand)
  | binary {left right : Expr} {op : BinaryOp} (before : Expr.Formed source .value left)
      (grouped : left.binds op.precedence) (behind : Expr.Formed source .value right)
      (tighter : right.binds (op.precedence + 1)) :
      Expr.Formed source .value (.binary left op right)
  | arrayType {length : ArrayLength} {element : Expr}
      (sized : ∀ size, length = .fixed size → Expr.Formed source .value size)
      (typed : Expr.Formed source .value element) :
      Expr.Formed source .value (.arrayType length element)
  | mapType {key value : Expr} (keyed : Expr.Formed source .value key)
      (valued : Expr.Formed source .value value) : Expr.Formed source .value (.mapType key value)
  | chanType {element : Expr} (direction : ChanDirection)
      (typed : Expr.Formed source .value element) :
      Expr.Formed source .value (.chanType direction element)
  | funcType {signature : Signature} (typed : Signature.Formed source signature) :
      Expr.Formed source .value (.funcType signature)
  | structType {fields : FieldList} (listed : FieldList.Formed source .struct fields) :
      Expr.Formed source .value (.structType fields)
  | interfaceType {methods : FieldList} (listed : FieldList.Formed source .interface methods) :
      Expr.Formed source .value (.interfaceType methods)
  | element {expr : Expr} (value : Expr.Formed source .value expr) :
      Expr.Formed source .element expr
  | untyped {elements : List Expr} (multiline : Bool)
      (each : ∀ item ∈ elements, Expr.Formed source .item item) :
      Expr.Formed source .element (.composite none elements multiline)
  | item {expr : Expr} (element : Expr.Formed source .element expr) : Expr.Formed source .item expr
  | keyValue {key value : Expr} (keyed : Expr.Formed source .element key)
      (valued : Expr.Formed source .element value) : Expr.Formed source .item (.keyValue key value)
  | entry {type : Expr} (value : Expr.Formed source .value type) : Expr.Formed source .entry type
  | variadic {type : Expr} (value : Expr.Formed source .value type) :
      Expr.Formed source .entry (.variadic type)

/-- The fields are well-formed as what their list stands as. -/
inductive FieldList.Formed (source : List Token) : FieldRole → FieldList → Prop
  | mk {role : FieldRole} {list : FieldList}
      (each : ∀ field ∈ list.fields, Expr.Formed source role.types field.type)
      (named : ∀ field ∈ list.fields, field.Named source role) (uniform : list.Uniform role) :
      FieldList.Formed source role list

/-- The parameters and the results are well-formed. -/
inductive Signature.Formed (source : List Token) : Signature → Prop
  | mk {signature : Signature} (taking : FieldList.Formed source .signature signature.params)
      (giving : ∀ results ∈ signature.results, FieldList.Formed source .signature results) :
      Signature.Formed source signature

/-- The entry is well-formed in a declaration of the keyword. -/
inductive Spec.Formed (source : List Token) : DeclKeyword → Spec → Prop
  | imported (spec : ImportSpec) : Spec.Formed source .imports (.imported spec)
  | value {keyword : DeclKeyword} {spec : ValueSpec} (valued : keyword ∈ [.consts, .vars])
      (some : spec.names ≠ []) (typed : ∀ type ∈ spec.type, Expr.Formed source .value type)
      (each : ∀ value ∈ spec.values, Expr.Formed source .value value) :
      Spec.Formed source keyword (.value spec)
  | type {spec : TypeSpec} (typed : Expr.Formed source .value spec.type) :
      Spec.Formed source .types (.type spec)

/-- All entries of the declaration are such as its keyword asks, and there is one of them unless
they are grouped. -/
inductive GenDecl.Formed (source : List Token) : GenDecl → Prop
  | mk {decl : GenDecl} (each : ∀ spec ∈ decl.specs, Spec.Formed source decl.keyword spec)
      (single : decl.grouped = false → decl.specs.length = 1) : GenDecl.Formed source decl

/-- All statements of the block are well-formed. -/
inductive Block.Formed (source : List Token) : Block → Prop
  | mk {block : Block} (each : ∀ stmt ∈ block.stmts, Stmt.Formed source .listed stmt) :
      Block.Formed source block

/-- The statement is well-formed as what it stands as: inside of another one it has no comments. -/
inductive Stmt.Formed (source : List Token) : StmtRole → Stmt → Prop
  | listed {stmt : Stmt} (formed : StmtKind.Formed source stmt.kind) :
      Stmt.Formed source .listed stmt
  | inner {stmt : Stmt} (formed : StmtKind.Formed source stmt.kind)
      (bare : stmt = .bare stmt.kind) :
      Stmt.Formed source .inner stmt

/-- The statement is well-formed, its comments apart. -/
inductive StmtKind.Formed (source : List Token) : StmtKind → Prop
  | decl {decl : GenDecl} (formed : GenDecl.Formed source decl)
      (allowed : decl.keyword ≠ .imports) :
      StmtKind.Formed source (.decl decl)
  | labeled {stmt : Stmt} (label : Ident) (formed : Stmt.Formed source .inner stmt) :
      StmtKind.Formed source (.labeled label stmt)
  | labeledEmpty (label : Ident) : StmtKind.Formed source (.labeled label (.bare .empty))
  | expr {expr : Expr} (formed : Expr.Formed source .value expr) :
      StmtKind.Formed source (.expr expr)
  | send {channel value : Expr} (into : Expr.Formed source .value channel)
      (sent : Expr.Formed source .value value) : StmtKind.Formed source (.send channel value)
  | incDec {operand : Expr} (increment : Bool) (formed : Expr.Formed source .value operand) :
      StmtKind.Formed source (.incDec operand increment)
  | assign {targets values : List Expr} (op : AssignOp) (someTargets : targets ≠ [])
      (someValues : values ≠ []) (eachTarget : ∀ target ∈ targets, Expr.Formed source .value target)
      (eachValue : ∀ value ∈ values, Expr.Formed source .value value) :
      StmtKind.Formed source (.assign targets op values)
  | go {call : Expr} (formed : Expr.Formed source .value call) : StmtKind.Formed source (.go call)
  | defer {call : Expr} (formed : Expr.Formed source .value call) :
      StmtKind.Formed source (.defer call)
  | ret {results : List Expr} (each : ∀ result ∈ results, Expr.Formed source .value result) :
      StmtKind.Formed source (.ret results)
  | branch (keyword : BranchKeyword) (label : Option Ident) :
      StmtKind.Formed source (.branch keyword label)
  | block {block : Block} (formed : Block.Formed source block) :
      StmtKind.Formed source (.block block)
  | conditional {init : Option Stmt} {condition : Expr} {body : Block}
      {alternative : Option Stmt} (begun : ∀ stmt ∈ init, Stmt.Formed source .inner stmt)
      (tested : Expr.Formed source .value condition) (bodied : Block.Formed source body)
      (otherwise : ∀ stmt ∈ alternative, Stmt.Formed source .inner stmt)
      (branches : ∀ stmt ∈ alternative, stmt.kind.isAlternative = true) :
      StmtKind.Formed source (.conditional init condition body alternative)
  | switch {init : Option Stmt} {tag : Option Expr} {clauses : List CaseClause}
      (begun : ∀ stmt ∈ init, Stmt.Formed source .inner stmt)
      (tagged : ∀ expr ∈ tag, Expr.Formed source .value expr)
      (each : ∀ clause ∈ clauses, CaseClause.Formed source clause) :
      StmtKind.Formed source (.switch init tag clauses)
  | typeSwitch {init : Option Stmt} {subject : Expr} {clauses : List CaseClause}
      (binding : Option Ident) (begun : ∀ stmt ∈ init, Stmt.Formed source .inner stmt)
      (formed : Expr.Formed source .value subject)
      (each : ∀ clause ∈ clauses, CaseClause.Formed source clause) :
      StmtKind.Formed source (.typeSwitch init binding subject clauses)
  | select {clauses : List CommClause}
      (each : ∀ clause ∈ clauses, CommClause.Formed source clause) :
      StmtKind.Formed source (.select clauses)
  | loop {init post : Option Stmt} {condition : Option Expr} {body : Block}
      (begun : ∀ stmt ∈ init, Stmt.Formed source .inner stmt)
      (tested : ∀ expr ∈ condition, Expr.Formed source .value expr)
      (repeated : ∀ stmt ∈ post, Stmt.Formed source .inner stmt)
      (bodied : Block.Formed source body) :
      StmtKind.Formed source (.loop init condition post body)
  | range {key value : Option Expr} {subject : Expr} {body : Block} (define : Bool)
      (keyed : ∀ expr ∈ key, Expr.Formed source .value expr)
      (valued : ∀ expr ∈ value, Expr.Formed source .value expr)
      (both : value.isSome = true → key.isSome = true) (formed : Expr.Formed source .value subject)
      (bodied : Block.Formed source body) :
      StmtKind.Formed source (.range key value define subject body)

/-- The clause of a switch is well-formed: a list of cases is not empty. -/
inductive CaseClause.Formed (source : List Token) : CaseClause → Prop
  | mk {clause : CaseClause} (some : ∀ cases ∈ clause.list, cases ≠ [])
      (each : ∀ cases ∈ clause.list, ∀ expr ∈ cases, Expr.Formed source .value expr)
      (bodied : ∀ stmt ∈ clause.body, Stmt.Formed source .listed stmt) :
      CaseClause.Formed source clause

/-- The clause of a select statement is well-formed. -/
inductive CommClause.Formed (source : List Token) : CommClause → Prop
  | mk {clause : CommClause} (awaited : ∀ stmt ∈ clause.comm, Stmt.Formed source .inner stmt)
      (bodied : ∀ stmt ∈ clause.body, Stmt.Formed source .listed stmt) :
      CommClause.Formed source clause

end

variable (source : List Token)

/-- The receiver, the signature and the body are well-formed. -/
structure FuncDecl.Formed (decl : FuncDecl) : Prop where
  receiver : ∀ list ∈ decl.receiver, list.Formed source .signature
  signature : decl.signature.Formed source
  body : ∀ block ∈ decl.body, block.Formed source

/-- The declaration is well-formed and one of imports if and only if it is said to be. -/
def Decl.Formed (imports : Bool) : Decl → Prop
  | .gen decl => decl.Formed source ∧ (decl.keyword = .imports ↔ imports = true)
  | .func decl => decl.Formed source ∧ imports = false

/-- All declarations are well-formed, those of imports stand before all others, and behind the
keywords of functions stand the heads of the functions. -/
def File.Formed (file : File) : Prop :=
  (∃ imports others, file.decls = imports ++ others ∧
    (∀ decl ∈ imports, decl.Formed source true) ∧ ∀ decl ∈ others, decl.Formed source false) ∧
      List.Forall₂ Head.Begins (Lexed.behindKeywords source) file.heads

end GoMend
