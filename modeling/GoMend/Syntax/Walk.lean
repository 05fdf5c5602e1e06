import GoMend.Syntax.Tree

/-!
# Walks over a tree

Two walks visit every node in document order: one collects what it finds, the
other builds the tree anew.  A collecting walk may stop at a declaration and take
it as a whole; a rebuilding walk may replace a type entry as a whole.
-/

namespace GoMend

universe u

mutual

/-- Collect from an expression or a type. -/
def Expr.collect {α : Type u} (onIdent : Ident → List α)
    (onDecl : GenDecl → Option (List α)) : Expr → List α
  | .ident name => onIdent name
  | .literal _ => []
  | .composite type elements _ =>
      (match type with
        | some type => type.collect onIdent onDecl
        | none => []) ++ Expr.collectAll onIdent onDecl elements
  | .function signature body =>
      signature.collect onIdent onDecl ++ body.collect onIdent onDecl
  | .paren inner => inner.collect onIdent onDecl
  | .selector base name => base.collect onIdent onDecl ++ onIdent name
  | .index base position =>
      base.collect onIdent onDecl ++ position.collect onIdent onDecl
  | .slice base low high max =>
      base.collect onIdent onDecl ++
      (match low with
        | some low => low.collect onIdent onDecl
        | none => []) ++
      (match high with
        | some high => high.collect onIdent onDecl
        | none => []) ++
      (match max with
        | some max => max.collect onIdent onDecl
        | none => [])
  | .assertion base type =>
      base.collect onIdent onDecl ++
      (match type with
        | some type => type.collect onIdent onDecl
        | none => [])
  | .call callee arguments _ =>
      callee.collect onIdent onDecl ++ Expr.collectAll onIdent onDecl arguments
  | .star inner => inner.collect onIdent onDecl
  | .unary _ operand => operand.collect onIdent onDecl
  | .binary left _ right => left.collect onIdent onDecl ++ right.collect onIdent onDecl
  | .keyValue key value => key.collect onIdent onDecl ++ value.collect onIdent onDecl
  | .arrayType length element =>
      length.collect onIdent onDecl ++ element.collect onIdent onDecl
  | .mapType key value => key.collect onIdent onDecl ++ value.collect onIdent onDecl
  | .chanType _ element => element.collect onIdent onDecl
  | .funcType signature => signature.collect onIdent onDecl
  | .structType fields => fields.collect onIdent onDecl
  | .interfaceType methods => methods.collect onIdent onDecl
  | .variadic element => element.collect onIdent onDecl
termination_by structural expr => expr

/-- Collect from a list of expressions. -/
def Expr.collectAll {α : Type u} (onIdent : Ident → List α)
    (onDecl : GenDecl → Option (List α)) : List Expr → List α
  | [] => []
  | expr :: rest => expr.collect onIdent onDecl ++ Expr.collectAll onIdent onDecl rest
termination_by structural exprs => exprs

/-- Collect from the length of an array type. -/
def ArrayLength.collect {α : Type u} (onIdent : Ident → List α)
    (onDecl : GenDecl → Option (List α)) : ArrayLength → List α
  | .slice => []
  | .inferred => []
  | .fixed size => size.collect onIdent onDecl
termination_by structural length => length

/-- Collect from a field. -/
def Field.collect {α : Type u} (onIdent : Ident → List α)
    (onDecl : GenDecl → Option (List α)) : Field → List α
  | ⟨_, names, type, _, _⟩ => names.flatMap onIdent ++ type.collect onIdent onDecl
termination_by structural field => field

/-- Collect from the fields of a list. -/
def Field.collectAll {α : Type u} (onIdent : Ident → List α)
    (onDecl : GenDecl → Option (List α)) : List Field → List α
  | [] => []
  | field :: rest => field.collect onIdent onDecl ++ Field.collectAll onIdent onDecl rest
termination_by structural fields => fields

/-- Collect from a bracketed list of fields. -/
def FieldList.collect {α : Type u} (onIdent : Ident → List α)
    (onDecl : GenDecl → Option (List α)) : FieldList → List α
  | ⟨fields, _⟩ => Field.collectAll onIdent onDecl fields
termination_by structural list => list

/-- Collect from the parameters and results of a function. -/
def Signature.collect {α : Type u} (onIdent : Ident → List α)
    (onDecl : GenDecl → Option (List α)) : Signature → List α
  | ⟨params, results⟩ =>
      params.collect onIdent onDecl ++
      (match results with
        | some results => results.collect onIdent onDecl
        | none => [])
termination_by structural signature => signature

/-- Collect from an entry of a constant or variable declaration. -/
def ValueSpec.collect {α : Type u} (onIdent : Ident → List α)
    (onDecl : GenDecl → Option (List α)) : ValueSpec → List α
  | ⟨_, names, type, values, _⟩ =>
      names.flatMap onIdent ++
      (match type with
        | some type => type.collect onIdent onDecl
        | none => []) ++ Expr.collectAll onIdent onDecl values
termination_by structural spec => spec

/-- Collect from an entry of a type declaration. -/
def TypeSpec.collect {α : Type u} (onIdent : Ident → List α)
    (onDecl : GenDecl → Option (List α)) : TypeSpec → List α
  | ⟨_, name, _, type, _⟩ => onIdent name ++ type.collect onIdent onDecl
termination_by structural spec => spec

/-- Collect from an entry of a declaration. -/
def Spec.collect {α : Type u} (onIdent : Ident → List α)
    (onDecl : GenDecl → Option (List α)) : Spec → List α
  | .imported spec =>
      match spec.name with
      | some name => onIdent name
      | none => []
  | .value spec => spec.collect onIdent onDecl
  | .type spec => spec.collect onIdent onDecl
termination_by structural spec => spec

/-- Collect from the entries of a declaration. -/
def Spec.collectAll {α : Type u} (onIdent : Ident → List α)
    (onDecl : GenDecl → Option (List α)) : List Spec → List α
  | [] => []
  | spec :: rest => spec.collect onIdent onDecl ++ Spec.collectAll onIdent onDecl rest
termination_by structural specs => specs

/-- Collect from a declaration, or take it as a whole. -/
def GenDecl.collect {α : Type u} (onIdent : Ident → List α)
    (onDecl : GenDecl → Option (List α)) : GenDecl → List α
  | ⟨doc, keyword, grouped, specs, offset⟩ =>
      match onDecl ⟨doc, keyword, grouped, specs, offset⟩ with
      | some found => found
      | none => Spec.collectAll onIdent onDecl specs
termination_by structural decl => decl

/-- Collect from a block. -/
def Block.collect {α : Type u} (onIdent : Ident → List α)
    (onDecl : GenDecl → Option (List α)) : Block → List α
  | ⟨stmts, _⟩ => Stmt.collectAll onIdent onDecl stmts
termination_by structural block => block

/-- Collect from a list of statements. -/
def Stmt.collectAll {α : Type u} (onIdent : Ident → List α)
    (onDecl : GenDecl → Option (List α)) : List Stmt → List α
  | [] => []
  | stmt :: rest => stmt.collect onIdent onDecl ++ Stmt.collectAll onIdent onDecl rest
termination_by structural stmts => stmts

/-- Collect from a statement. -/
def Stmt.collect {α : Type u} (onIdent : Ident → List α)
    (onDecl : GenDecl → Option (List α)) : Stmt → List α
  | ⟨_, kind, _⟩ => kind.collect onIdent onDecl
termination_by structural stmt => stmt

/-- Collect from a statement without its comments. -/
def StmtKind.collect {α : Type u} (onIdent : Ident → List α)
    (onDecl : GenDecl → Option (List α)) : StmtKind → List α
  | .decl decl => decl.collect onIdent onDecl
  | .empty => []
  | .labeled label stmt => onIdent label ++ stmt.collect onIdent onDecl
  | .expr expr => expr.collect onIdent onDecl
  | .send channel value => channel.collect onIdent onDecl ++ value.collect onIdent onDecl
  | .incDec operand _ => operand.collect onIdent onDecl
  | .assign targets _ values =>
      Expr.collectAll onIdent onDecl targets ++ Expr.collectAll onIdent onDecl values
  | .go call => call.collect onIdent onDecl
  | .defer call => call.collect onIdent onDecl
  | .ret results => Expr.collectAll onIdent onDecl results
  | .branch _ label =>
      match label with
      | some label => onIdent label
      | none => []
  | .block block => block.collect onIdent onDecl
  | .conditional init condition body alternative =>
      (match init with
        | some init => init.collect onIdent onDecl
        | none => []) ++
      condition.collect onIdent onDecl ++ body.collect onIdent onDecl ++
      (match alternative with
        | some alternative => alternative.collect onIdent onDecl
        | none => [])
  | .switch init tag clauses =>
      (match init with
        | some init => init.collect onIdent onDecl
        | none => []) ++
      (match tag with
        | some tag => tag.collect onIdent onDecl
        | none => []) ++
      CaseClause.collectAll onIdent onDecl clauses
  | .typeSwitch init binding subject clauses =>
      (match init with
        | some init => init.collect onIdent onDecl
        | none => []) ++
      (match binding with
        | some binding => onIdent binding
        | none => []) ++
      subject.collect onIdent onDecl ++ CaseClause.collectAll onIdent onDecl clauses
  | .select clauses => CommClause.collectAll onIdent onDecl clauses
  | .loop init condition post body =>
      (match init with
        | some init => init.collect onIdent onDecl
        | none => []) ++
      (match condition with
        | some condition => condition.collect onIdent onDecl
        | none => []) ++
      (match post with
        | some post => post.collect onIdent onDecl
        | none => []) ++
      body.collect onIdent onDecl
  | .range key value _ subject body =>
      (match key with
        | some key => key.collect onIdent onDecl
        | none => []) ++
      (match value with
        | some value => value.collect onIdent onDecl
        | none => []) ++
      subject.collect onIdent onDecl ++ body.collect onIdent onDecl
termination_by structural kind => kind

/-- Collect from the clauses of a switch. -/
def CaseClause.collectAll {α : Type u} (onIdent : Ident → List α)
    (onDecl : GenDecl → Option (List α)) : List CaseClause → List α
  | [] => []
  | ⟨_, list, body⟩ :: rest =>
      (match list with
        | some list => Expr.collectAll onIdent onDecl list
        | none => []) ++
      Stmt.collectAll onIdent onDecl body ++ CaseClause.collectAll onIdent onDecl rest
termination_by structural clauses => clauses

/-- Collect from the clauses of a select statement. -/
def CommClause.collectAll {α : Type u} (onIdent : Ident → List α)
    (onDecl : GenDecl → Option (List α)) : List CommClause → List α
  | [] => []
  | ⟨_, comm, body⟩ :: rest =>
      (match comm with
        | some comm => comm.collect onIdent onDecl
        | none => []) ++
      Stmt.collectAll onIdent onDecl body ++ CommClause.collectAll onIdent onDecl rest
termination_by structural clauses => clauses

end

namespace FuncDecl

/-- Collect from a function or method. -/
def collect {α : Type u} (onIdent : Ident → List α)
    (onDecl : GenDecl → Option (List α)) (decl : FuncDecl) : List α :=
  (match decl.receiver with
    | some receiver => receiver.collect onIdent onDecl
    | none => []) ++
  onIdent decl.name ++ decl.signature.collect onIdent onDecl ++
  (match decl.body with
    | some body => body.collect onIdent onDecl
    | none => [])

end FuncDecl

namespace Decl

/-- Collect from a top-level declaration. -/
def collect {α : Type u} (onIdent : Ident → List α)
    (onDecl : GenDecl → Option (List α)) : Decl → List α
  | .gen decl => decl.collect onIdent onDecl
  | .func decl => decl.collect onIdent onDecl

end Decl

namespace File

/-- Collect from a file. -/
def collect {α : Type u} (onIdent : Ident → List α)
    (onDecl : GenDecl → Option (List α)) (file : File) : List α :=
  onIdent file.package ++ file.decls.flatMap (·.collect onIdent onDecl)

/-- All occurrences of names, in document order. -/
def idents (file : File) : List Ident :=
  file.collect (fun ident => [ident]) fun _ => none

/-- All type declarations, those inside functions included, in document order.  A
type declaration inside another one is not listed. -/
def typeDecls (file : File) : List GenDecl :=
  file.collect (fun _ => []) fun decl =>
    if decl.keyword = .types then some [decl] else none

/-- All functions and methods, in document order. -/
def funcDecls (file : File) : List FuncDecl :=
  file.decls.filterMap fun
    | .func decl => some decl
    | .gen _ => none

end File

mutual

/-- Rebuild an expression or a type. -/
def Expr.rebuild (onIdent : Ident → Ident) (onType : TypeSpec → Option TypeSpec) :
    Expr → Expr
  | .ident name => .ident (onIdent name)
  | .literal value => .literal value
  | .composite type elements multiline =>
      .composite
        (match type with
          | some type => some (type.rebuild onIdent onType)
          | none => none)
        (Expr.rebuildAll onIdent onType elements) multiline
  | .function signature body =>
      .function (signature.rebuild onIdent onType) (body.rebuild onIdent onType)
  | .paren inner => .paren (inner.rebuild onIdent onType)
  | .selector base name => .selector (base.rebuild onIdent onType) (onIdent name)
  | .index base position =>
      .index (base.rebuild onIdent onType) (position.rebuild onIdent onType)
  | .slice base low high max =>
      .slice (base.rebuild onIdent onType)
        (match low with
          | some low => some (low.rebuild onIdent onType)
          | none => none)
        (match high with
          | some high => some (high.rebuild onIdent onType)
          | none => none)
        (match max with
          | some max => some (max.rebuild onIdent onType)
          | none => none)
  | .assertion base type =>
      .assertion (base.rebuild onIdent onType)
        (match type with
          | some type => some (type.rebuild onIdent onType)
          | none => none)
  | .call callee arguments spread =>
      .call (callee.rebuild onIdent onType) (Expr.rebuildAll onIdent onType arguments)
        spread
  | .star inner => .star (inner.rebuild onIdent onType)
  | .unary op operand => .unary op (operand.rebuild onIdent onType)
  | .binary left op right =>
      .binary (left.rebuild onIdent onType) op (right.rebuild onIdent onType)
  | .keyValue key value =>
      .keyValue (key.rebuild onIdent onType) (value.rebuild onIdent onType)
  | .arrayType length element =>
      .arrayType (length.rebuild onIdent onType) (element.rebuild onIdent onType)
  | .mapType key value =>
      .mapType (key.rebuild onIdent onType) (value.rebuild onIdent onType)
  | .chanType direction element => .chanType direction (element.rebuild onIdent onType)
  | .funcType signature => .funcType (signature.rebuild onIdent onType)
  | .structType fields => .structType (fields.rebuild onIdent onType)
  | .interfaceType methods => .interfaceType (methods.rebuild onIdent onType)
  | .variadic element => .variadic (element.rebuild onIdent onType)
termination_by structural expr => expr

/-- Rebuild the expressions of a list. -/
def Expr.rebuildAll (onIdent : Ident → Ident) (onType : TypeSpec → Option TypeSpec) :
    List Expr → List Expr
  | [] => []
  | expr :: rest =>
      expr.rebuild onIdent onType :: Expr.rebuildAll onIdent onType rest
termination_by structural exprs => exprs

/-- Rebuild the length of an array type. -/
def ArrayLength.rebuild (onIdent : Ident → Ident)
    (onType : TypeSpec → Option TypeSpec) : ArrayLength → ArrayLength
  | .slice => .slice
  | .inferred => .inferred
  | .fixed size => .fixed (size.rebuild onIdent onType)
termination_by structural length => length

/-- Rebuild a field. -/
def Field.rebuild (onIdent : Ident → Ident) (onType : TypeSpec → Option TypeSpec) :
    Field → Field
  | ⟨doc, names, type, tag, comment⟩ =>
      ⟨doc, names.map onIdent, type.rebuild onIdent onType, tag, comment⟩
termination_by structural field => field

/-- Rebuild the fields of a list. -/
def Field.rebuildAll (onIdent : Ident → Ident) (onType : TypeSpec → Option TypeSpec) :
    List Field → List Field
  | [] => []
  | field :: rest =>
      field.rebuild onIdent onType :: Field.rebuildAll onIdent onType rest
termination_by structural fields => fields

/-- Rebuild a bracketed list of fields. -/
def FieldList.rebuild (onIdent : Ident → Ident)
    (onType : TypeSpec → Option TypeSpec) : FieldList → FieldList
  | ⟨fields, closing⟩ => ⟨Field.rebuildAll onIdent onType fields, closing⟩
termination_by structural list => list

/-- Rebuild the parameters and results of a function. -/
def Signature.rebuild (onIdent : Ident → Ident)
    (onType : TypeSpec → Option TypeSpec) : Signature → Signature
  | ⟨params, results⟩ =>
      ⟨params.rebuild onIdent onType,
        match results with
        | some results => some (results.rebuild onIdent onType)
        | none => none⟩
termination_by structural signature => signature

/-- Rebuild an entry of a constant or variable declaration. -/
def ValueSpec.rebuild (onIdent : Ident → Ident)
    (onType : TypeSpec → Option TypeSpec) : ValueSpec → ValueSpec
  | ⟨doc, names, type, values, comment⟩ =>
      ⟨doc, names.map onIdent,
        match type with
        | some type => some (type.rebuild onIdent onType)
        | none => none,
        Expr.rebuildAll onIdent onType values, comment⟩
termination_by structural spec => spec

/-- Rebuild the parts of an entry of a type declaration. -/
def TypeSpec.rebuild (onIdent : Ident → Ident)
    (onType : TypeSpec → Option TypeSpec) : TypeSpec → TypeSpec
  | ⟨doc, name, isAlias, type, comment⟩ =>
      ⟨doc, onIdent name, isAlias, type.rebuild onIdent onType, comment⟩
termination_by structural spec => spec

/-- Rebuild an entry of a declaration, or replace a type entry as a whole. -/
def Spec.rebuild (onIdent : Ident → Ident) (onType : TypeSpec → Option TypeSpec) :
    Spec → Spec
  | .imported spec => .imported { spec with name := spec.name.map onIdent }
  | .value spec => .value (spec.rebuild onIdent onType)
  | .type spec =>
      match onType spec with
      | some replacement => .type replacement
      | none => .type (spec.rebuild onIdent onType)
termination_by structural spec => spec

/-- Rebuild the entries of a declaration. -/
def Spec.rebuildAll (onIdent : Ident → Ident) (onType : TypeSpec → Option TypeSpec) :
    List Spec → List Spec
  | [] => []
  | spec :: rest => spec.rebuild onIdent onType :: Spec.rebuildAll onIdent onType rest
termination_by structural specs => specs

/-- Rebuild a declaration. -/
def GenDecl.rebuild (onIdent : Ident → Ident) (onType : TypeSpec → Option TypeSpec) :
    GenDecl → GenDecl
  | ⟨doc, keyword, grouped, specs, offset⟩ =>
      ⟨doc, keyword, grouped, Spec.rebuildAll onIdent onType specs, offset⟩
termination_by structural decl => decl

/-- Rebuild a block. -/
def Block.rebuild (onIdent : Ident → Ident) (onType : TypeSpec → Option TypeSpec) :
    Block → Block
  | ⟨stmts, closing⟩ => ⟨Stmt.rebuildAll onIdent onType stmts, closing⟩
termination_by structural block => block

/-- Rebuild the statements of a list. -/
def Stmt.rebuildAll (onIdent : Ident → Ident) (onType : TypeSpec → Option TypeSpec) :
    List Stmt → List Stmt
  | [] => []
  | stmt :: rest => stmt.rebuild onIdent onType :: Stmt.rebuildAll onIdent onType rest
termination_by structural stmts => stmts

/-- Rebuild a statement. -/
def Stmt.rebuild (onIdent : Ident → Ident) (onType : TypeSpec → Option TypeSpec) :
    Stmt → Stmt
  | ⟨doc, kind, comment⟩ => ⟨doc, kind.rebuild onIdent onType, comment⟩
termination_by structural stmt => stmt

/-- Rebuild a statement without its comments. -/
def StmtKind.rebuild (onIdent : Ident → Ident)
    (onType : TypeSpec → Option TypeSpec) : StmtKind → StmtKind
  | .decl decl => .decl (decl.rebuild onIdent onType)
  | .empty => .empty
  | .labeled label stmt => .labeled (onIdent label) (stmt.rebuild onIdent onType)
  | .expr expr => .expr (expr.rebuild onIdent onType)
  | .send channel value =>
      .send (channel.rebuild onIdent onType) (value.rebuild onIdent onType)
  | .incDec operand increment => .incDec (operand.rebuild onIdent onType) increment
  | .assign targets op values =>
      .assign (Expr.rebuildAll onIdent onType targets) op
        (Expr.rebuildAll onIdent onType values)
  | .go call => .go (call.rebuild onIdent onType)
  | .defer call => .defer (call.rebuild onIdent onType)
  | .ret results => .ret (Expr.rebuildAll onIdent onType results)
  | .branch keyword label => .branch keyword (label.map onIdent)
  | .block block => .block (block.rebuild onIdent onType)
  | .conditional init condition body alternative =>
      .conditional
        (match init with
          | some init => some (init.rebuild onIdent onType)
          | none => none)
        (condition.rebuild onIdent onType) (body.rebuild onIdent onType)
        (match alternative with
          | some alternative => some (alternative.rebuild onIdent onType)
          | none => none)
  | .switch init tag clauses =>
      .switch
        (match init with
          | some init => some (init.rebuild onIdent onType)
          | none => none)
        (match tag with
          | some tag => some (tag.rebuild onIdent onType)
          | none => none)
        (CaseClause.rebuildAll onIdent onType clauses)
  | .typeSwitch init binding subject clauses =>
      .typeSwitch
        (match init with
          | some init => some (init.rebuild onIdent onType)
          | none => none)
        (binding.map onIdent) (subject.rebuild onIdent onType)
        (CaseClause.rebuildAll onIdent onType clauses)
  | .select clauses => .select (CommClause.rebuildAll onIdent onType clauses)
  | .loop init condition post body =>
      .loop
        (match init with
          | some init => some (init.rebuild onIdent onType)
          | none => none)
        (match condition with
          | some condition => some (condition.rebuild onIdent onType)
          | none => none)
        (match post with
          | some post => some (post.rebuild onIdent onType)
          | none => none)
        (body.rebuild onIdent onType)
  | .range key value define subject body =>
      .range
        (match key with
          | some key => some (key.rebuild onIdent onType)
          | none => none)
        (match value with
          | some value => some (value.rebuild onIdent onType)
          | none => none)
        define (subject.rebuild onIdent onType) (body.rebuild onIdent onType)
termination_by structural kind => kind

/-- Rebuild the clauses of a switch. -/
def CaseClause.rebuildAll (onIdent : Ident → Ident)
    (onType : TypeSpec → Option TypeSpec) : List CaseClause → List CaseClause
  | [] => []
  | ⟨doc, list, body⟩ :: rest =>
      ⟨doc,
        match list with
        | some list => some (Expr.rebuildAll onIdent onType list)
        | none => none,
        Stmt.rebuildAll onIdent onType body⟩ ::
      CaseClause.rebuildAll onIdent onType rest
termination_by structural clauses => clauses

/-- Rebuild the clauses of a select statement. -/
def CommClause.rebuildAll (onIdent : Ident → Ident)
    (onType : TypeSpec → Option TypeSpec) : List CommClause → List CommClause
  | [] => []
  | ⟨doc, comm, body⟩ :: rest =>
      ⟨doc,
        match comm with
        | some comm => some (comm.rebuild onIdent onType)
        | none => none,
        Stmt.rebuildAll onIdent onType body⟩ ::
      CommClause.rebuildAll onIdent onType rest
termination_by structural clauses => clauses

end

namespace FuncDecl

/-- Rebuild a function or method. -/
def rebuild (onIdent : Ident → Ident) (onType : TypeSpec → Option TypeSpec)
    (decl : FuncDecl) : FuncDecl :=
  { doc := decl.doc
    receiver := decl.receiver.map (·.rebuild onIdent onType)
    name := onIdent decl.name
    signature := decl.signature.rebuild onIdent onType
    body := decl.body.map (·.rebuild onIdent onType) }

end FuncDecl

namespace Decl

/-- Rebuild a top-level declaration. -/
def rebuild (onIdent : Ident → Ident) (onType : TypeSpec → Option TypeSpec) :
    Decl → Decl
  | .gen decl => .gen (decl.rebuild onIdent onType)
  | .func decl => .func (decl.rebuild onIdent onType)

end Decl

namespace File

/-- Rebuild a file. -/
def rebuild (onIdent : Ident → Ident) (onType : TypeSpec → Option TypeSpec)
    (file : File) : File :=
  { file with
    package := onIdent file.package
    decls := file.decls.map (·.rebuild onIdent onType) }

/-- Replace every occurrence of a name. -/
def mapIdents (change : Ident → Ident) (file : File) : File :=
  file.rebuild change fun _ => none

/-- Replace the type entries that the change applies to. -/
def mapTypes (change : TypeSpec → Option TypeSpec) (file : File) : File :=
  file.rebuild id change

end File

end GoMend
