import Mathlib.Logic.Basic
import GoMend.Syntax.Tree

/-!
# Stripped trees

A stripped tree says what a text means apart from its layout: it has no positions and no comments,
and does not tell on how many lines a literal was written.  Two trees mean the same if they are
the same when stripped.
-/

namespace GoMend

/-- A name without its position. -/
def Ident.stripped (ident : Ident) : Ident :=
  { ident with offset := none }

/-- A literal without its position. -/
def Literal.stripped (literal : Literal) : Literal :=
  { literal with offset := none }

/-- An import without positions and comments. -/
def ImportSpec.stripped (spec : ImportSpec) : ImportSpec :=
  { doc := [], name := spec.name.map Ident.stripped, path := spec.path.stripped, comment := none }

mutual

/-- An expression or a type stripped. -/
def Expr.stripped : Expr → Expr
  | .ident name => .ident name.stripped
  | .literal literal => .literal literal.stripped
  | .composite type elements _ =>
      .composite (Expr.strippedOptional type) (Expr.strippedAll elements) false
  | .function signature body => .function signature.stripped body.stripped
  | .paren inner => .paren inner.stripped
  | .selector base name => .selector base.stripped name.stripped
  | .index base position => .index base.stripped position.stripped
  | .slice base low high max =>
      .slice base.stripped (Expr.strippedOptional low) (Expr.strippedOptional high)
        (Expr.strippedOptional max)
  | .assertion base type => .assertion base.stripped (Expr.strippedOptional type)
  | .call callee arguments spread => .call callee.stripped (Expr.strippedAll arguments) spread
  | .star inner => .star inner.stripped
  | .unary op operand => .unary op operand.stripped
  | .binary left op right => .binary left.stripped op right.stripped
  | .keyValue key value => .keyValue key.stripped value.stripped
  | .arrayType length element => .arrayType length.stripped element.stripped
  | .mapType key value => .mapType key.stripped value.stripped
  | .chanType direction element => .chanType direction element.stripped
  | .funcType signature => .funcType signature.stripped
  | .structType fields => .structType fields.stripped
  | .interfaceType methods => .interfaceType methods.stripped
  | .variadic element => .variadic element.stripped
termination_by structural expr => expr

/-- An expression stripped, if there is one. -/
def Expr.strippedOptional : Option Expr → Option Expr
  | none => none
  | some expr => some expr.stripped
termination_by structural expr => expr

/-- Several expressions stripped. -/
def Expr.strippedAll : List Expr → List Expr
  | [] => []
  | expr :: rest => expr.stripped :: Expr.strippedAll rest
termination_by structural exprs => exprs

/-- The length of an array type stripped. -/
def ArrayLength.stripped : ArrayLength → ArrayLength
  | .slice => .slice
  | .inferred => .inferred
  | .fixed size => .fixed size.stripped
termination_by structural length => length

/-- Several fields stripped. -/
def Field.strippedAll : List Field → List Field
  | [] => []
  | ⟨_, names, type, tag, _⟩ :: rest =>
      ⟨[], names.map Ident.stripped, type.stripped, tag.map Literal.stripped, none⟩ ::
        Field.strippedAll rest
termination_by structural fields => fields

/-- A bracketed list of fields stripped. -/
def FieldList.stripped : FieldList → FieldList
  | ⟨fields, _⟩ => ⟨Field.strippedAll fields, []⟩
termination_by structural list => list

/-- A bracketed list of fields stripped, if there is one. -/
def FieldList.strippedOptional : Option FieldList → Option FieldList
  | none => none
  | some list => some list.stripped
termination_by structural list => list

/-- The parameters and results of a function stripped. -/
def Signature.stripped : Signature → Signature
  | ⟨params, results⟩ => ⟨params.stripped, FieldList.strippedOptional results⟩
termination_by structural signature => signature

/-- An entry of a declaration stripped. -/
def Spec.stripped : Spec → Spec
  | .imported spec => .imported spec.stripped
  | .value ⟨_, names, type, values, _⟩ =>
      .value
        ⟨[], names.map Ident.stripped, Expr.strippedOptional type, Expr.strippedAll values, none⟩
  | .type ⟨_, name, isAlias, type, _⟩ => .type ⟨[], name.stripped, isAlias, type.stripped, none⟩
termination_by structural spec => spec

/-- The entries of a declaration stripped. -/
def Spec.strippedAll : List Spec → List Spec
  | [] => []
  | spec :: rest => spec.stripped :: Spec.strippedAll rest
termination_by structural specs => specs

/-- A declaration with entries stripped. -/
def GenDecl.stripped : GenDecl → GenDecl
  | ⟨_, keyword, grouped, specs, _⟩ => ⟨[], keyword, grouped, Spec.strippedAll specs, none⟩
termination_by structural decl => decl

/-- A block stripped. -/
def Block.stripped : Block → Block
  | ⟨stmts, _⟩ => ⟨Stmt.strippedAll stmts, []⟩
termination_by structural block => block

/-- Several statements stripped. -/
def Stmt.strippedAll : List Stmt → List Stmt
  | [] => []
  | stmt :: rest => stmt.stripped :: Stmt.strippedAll rest
termination_by structural stmts => stmts

/-- A statement stripped. -/
def Stmt.stripped : Stmt → Stmt
  | ⟨_, kind, _⟩ => ⟨[], kind.stripped, none⟩
termination_by structural stmt => stmt

/-- A statement stripped, if there is one. -/
def Stmt.strippedOptional : Option Stmt → Option Stmt
  | none => none
  | some stmt => some stmt.stripped
termination_by structural stmt => stmt

/-- A statement without its comments stripped. -/
def StmtKind.stripped : StmtKind → StmtKind
  | .decl decl => .decl decl.stripped
  | .empty => .empty
  | .labeled label stmt => .labeled label.stripped stmt.stripped
  | .expr expr => .expr expr.stripped
  | .send channel value => .send channel.stripped value.stripped
  | .incDec operand increment => .incDec operand.stripped increment
  | .assign targets op values => .assign (Expr.strippedAll targets) op (Expr.strippedAll values)
  | .go call => .go call.stripped
  | .defer call => .defer call.stripped
  | .ret results => .ret (Expr.strippedAll results)
  | .branch keyword label => .branch keyword (label.map Ident.stripped)
  | .block block => .block block.stripped
  | .conditional init condition body alternative =>
      .conditional (Stmt.strippedOptional init) condition.stripped body.stripped
        (Stmt.strippedOptional alternative)
  | .switch init tag clauses =>
      .switch (Stmt.strippedOptional init) (Expr.strippedOptional tag)
        (CaseClause.strippedAll clauses)
  | .typeSwitch init binding subject clauses =>
      .typeSwitch (Stmt.strippedOptional init) (binding.map Ident.stripped) subject.stripped
        (CaseClause.strippedAll clauses)
  | .select clauses => .select (CommClause.strippedAll clauses)
  | .loop init condition post body =>
      .loop (Stmt.strippedOptional init) (Expr.strippedOptional condition)
        (Stmt.strippedOptional post) body.stripped
  | .range key value define subject body =>
      .range (Expr.strippedOptional key) (Expr.strippedOptional value) define subject.stripped
        body.stripped
termination_by structural kind => kind

/-- The clauses of a switch stripped. -/
def CaseClause.strippedAll : List CaseClause → List CaseClause
  | [] => []
  | ⟨_, none, body⟩ :: rest => ⟨[], none, Stmt.strippedAll body⟩ :: CaseClause.strippedAll rest
  | ⟨_, some list, body⟩ :: rest =>
      ⟨[], some (Expr.strippedAll list), Stmt.strippedAll body⟩ :: CaseClause.strippedAll rest
termination_by structural clauses => clauses

/-- The clauses of a select statement stripped. -/
def CommClause.strippedAll : List CommClause → List CommClause
  | [] => []
  | ⟨_, comm, body⟩ :: rest =>
      ⟨[], Stmt.strippedOptional comm, Stmt.strippedAll body⟩ :: CommClause.strippedAll rest
termination_by structural clauses => clauses

end

/-- A function or method stripped. -/
def FuncDecl.stripped (decl : FuncDecl) : FuncDecl :=
  { doc := []
    receiver := FieldList.strippedOptional decl.receiver
    name := decl.name.stripped
    signature := decl.signature.stripped
    body := decl.body.map Block.stripped }

/-- A top-level declaration stripped. -/
def Decl.stripped : Decl → Decl
  | .gen decl => .gen decl.stripped
  | .func decl => .func decl.stripped

/-- A file stripped. -/
def File.stripped (file : File) : File :=
  { doc := []
    package := file.package.stripped
    decls := file.decls.map Decl.stripped
    trailing := [] }

end GoMend
