import Mathlib.Data.List.Forall2
import GoMend.Proofs.Unit.Structures

/-!
# Trees that differ in type declarations

Two trees are the same but for their type declarations if they agree in every node, name and
comment, down to the type declarations, which may be exchanged.  An edit of one type entry
exchanges the declaration that it stands in, and nothing else.  Which of the type declarations of
a file it is follows from the list of them.
-/

namespace GoMend

section

variable (exchanged : GenDecl → GenDecl → Prop)

mutual

/-- Two expressions or types, the same but for their type declarations. -/
inductive Expr.Redeclared : Expr → Expr → Prop
  | ident (name : Ident) : Expr.Redeclared (.ident name) (.ident name)
  | literal (value : Literal) : Expr.Redeclared (.literal value) (.literal value)
  | composite {type type' : Option Expr} {elements elements' : List Expr} (multiline : Bool) :
      Option.Rel Expr.Redeclared type type' → List.Forall₂ Expr.Redeclared elements elements' →
      Expr.Redeclared (.composite type elements multiline) (.composite type' elements' multiline)
  | function {signature signature' : Signature} {body body' : Block} :
      Signature.Redeclared signature signature' → Block.Redeclared body body' →
      Expr.Redeclared (.function signature body) (.function signature' body')
  | paren {inner inner' : Expr} : Expr.Redeclared inner inner' →
      Expr.Redeclared (.paren inner) (.paren inner')
  | selector {base base' : Expr} (name : Ident) : Expr.Redeclared base base' →
      Expr.Redeclared (.selector base name) (.selector base' name)
  | index {base base' position position' : Expr} : Expr.Redeclared base base' →
      Expr.Redeclared position position' →
      Expr.Redeclared (.index base position) (.index base' position')
  | slice {base base' : Expr} {low low' high high' max max' : Option Expr} :
      Expr.Redeclared base base' → Option.Rel Expr.Redeclared low low' →
      Option.Rel Expr.Redeclared high high' → Option.Rel Expr.Redeclared max max' →
      Expr.Redeclared (.slice base low high max) (.slice base' low' high' max')
  | assertion {base base' : Expr} {type type' : Option Expr} : Expr.Redeclared base base' →
      Option.Rel Expr.Redeclared type type' →
      Expr.Redeclared (.assertion base type) (.assertion base' type')
  | call {callee callee' : Expr} {arguments arguments' : List Expr} (spread : Bool) :
      Expr.Redeclared callee callee' → List.Forall₂ Expr.Redeclared arguments arguments' →
      Expr.Redeclared (.call callee arguments spread) (.call callee' arguments' spread)
  | star {inner inner' : Expr} : Expr.Redeclared inner inner' →
      Expr.Redeclared (.star inner) (.star inner')
  | unary (op : UnaryOp) {operand operand' : Expr} : Expr.Redeclared operand operand' →
      Expr.Redeclared (.unary op operand) (.unary op operand')
  | binary (op : BinaryOp) {left left' right right' : Expr} : Expr.Redeclared left left' →
      Expr.Redeclared right right' →
      Expr.Redeclared (.binary left op right) (.binary left' op right')
  | keyValue {key key' value value' : Expr} : Expr.Redeclared key key' →
      Expr.Redeclared value value' → Expr.Redeclared (.keyValue key value) (.keyValue key' value')
  | arrayType {length length' : ArrayLength} {element element' : Expr} :
      ArrayLength.Redeclared length length' → Expr.Redeclared element element' →
      Expr.Redeclared (.arrayType length element) (.arrayType length' element')
  | mapType {key key' value value' : Expr} : Expr.Redeclared key key' →
      Expr.Redeclared value value' → Expr.Redeclared (.mapType key value) (.mapType key' value')
  | chanType (direction : ChanDirection) {element element' : Expr} :
      Expr.Redeclared element element' →
      Expr.Redeclared (.chanType direction element) (.chanType direction element')
  | funcType {signature signature' : Signature} : Signature.Redeclared signature signature' →
      Expr.Redeclared (.funcType signature) (.funcType signature')
  | structType {fields fields' : FieldList} : FieldList.Redeclared fields fields' →
      Expr.Redeclared (.structType fields) (.structType fields')
  | interfaceType {methods methods' : FieldList} : FieldList.Redeclared methods methods' →
      Expr.Redeclared (.interfaceType methods) (.interfaceType methods')
  | variadic {element element' : Expr} : Expr.Redeclared element element' →
      Expr.Redeclared (.variadic element) (.variadic element')

/-- Two lengths of an array type, the same but for their type declarations. -/
inductive ArrayLength.Redeclared : ArrayLength → ArrayLength → Prop
  | slice : ArrayLength.Redeclared .slice .slice
  | inferred : ArrayLength.Redeclared .inferred .inferred
  | fixed {size size' : Expr} : Expr.Redeclared size size' →
      ArrayLength.Redeclared (.fixed size) (.fixed size')

/-- Two fields, the same but for their type declarations. -/
inductive Field.Redeclared : Field → Field → Prop
  | mk (doc : List Comment) (names : List Ident) {type type' : Expr} (tag : Option Literal)
      (comment : Option Comment) : Expr.Redeclared type type' →
      Field.Redeclared ⟨doc, names, type, tag, comment⟩ ⟨doc, names, type', tag, comment⟩

/-- Two bracketed lists of fields, the same but for their type declarations. -/
inductive FieldList.Redeclared : FieldList → FieldList → Prop
  | mk {fields fields' : List Field} (closing : List Comment) :
      List.Forall₂ Field.Redeclared fields fields' →
      FieldList.Redeclared ⟨fields, closing⟩ ⟨fields', closing⟩

/-- Two lists of parameters and results, the same but for their type declarations. -/
inductive Signature.Redeclared : Signature → Signature → Prop
  | mk {params params' : FieldList} {results results' : Option FieldList} :
      FieldList.Redeclared params params' → Option.Rel FieldList.Redeclared results results' →
      Signature.Redeclared ⟨params, results⟩ ⟨params', results'⟩

/-- Two entries of a declaration, the same but for the type declarations inside. -/
inductive Spec.Redeclared : Spec → Spec → Prop
  | imported (spec : ImportSpec) : Spec.Redeclared (.imported spec) (.imported spec)
  | value (doc : List Comment) (names : List Ident) {type type' : Option Expr}
      {values values' : List Expr} (comment : Option Comment) :
      Option.Rel Expr.Redeclared type type' → List.Forall₂ Expr.Redeclared values values' →
      Spec.Redeclared (.value ⟨doc, names, type, values, comment⟩)
        (.value ⟨doc, names, type', values', comment⟩)
  | type (doc : List Comment) (name : Ident) (isAlias : Bool) {type type' : Expr}
      (comment : Option Comment) : Expr.Redeclared type type' →
      Spec.Redeclared (.type ⟨doc, name, isAlias, type, comment⟩)
        (.type ⟨doc, name, isAlias, type', comment⟩)

/-- Two declarations, exchanged for each other or the same but for the type declarations inside. -/
inductive GenDecl.Redeclared : GenDecl → GenDecl → Prop
  | whole {decl decl' : GenDecl} : exchanged decl decl' → GenDecl.Redeclared decl decl'
  | inside (doc : List Comment) (keyword : DeclKeyword) (grouped : Bool) {specs specs' : List Spec}
      (offset : Option Nat) : List.Forall₂ Spec.Redeclared specs specs' →
      GenDecl.Redeclared ⟨doc, keyword, grouped, specs, offset⟩
        ⟨doc, keyword, grouped, specs', offset⟩

/-- Two blocks, the same but for their type declarations. -/
inductive Block.Redeclared : Block → Block → Prop
  | mk {stmts stmts' : List Stmt} (closing : List Comment) :
      List.Forall₂ Stmt.Redeclared stmts stmts' →
      Block.Redeclared ⟨stmts, closing⟩ ⟨stmts', closing⟩

/-- Two statements, the same but for their type declarations. -/
inductive Stmt.Redeclared : Stmt → Stmt → Prop
  | mk (doc : List Comment) {kind kind' : StmtKind} (comment : Option Comment) :
      StmtKind.Redeclared kind kind' → Stmt.Redeclared ⟨doc, kind, comment⟩ ⟨doc, kind', comment⟩

/-- Two statements without comments, the same but for their type declarations. -/
inductive StmtKind.Redeclared : StmtKind → StmtKind → Prop
  | decl {decl decl' : GenDecl} : GenDecl.Redeclared decl decl' →
      StmtKind.Redeclared (.decl decl) (.decl decl')
  | empty : StmtKind.Redeclared .empty .empty
  | labeled (label : Ident) {stmt stmt' : Stmt} : Stmt.Redeclared stmt stmt' →
      StmtKind.Redeclared (.labeled label stmt) (.labeled label stmt')
  | expr {expr expr' : Expr} : Expr.Redeclared expr expr' →
      StmtKind.Redeclared (.expr expr) (.expr expr')
  | send {channel channel' value value' : Expr} : Expr.Redeclared channel channel' →
      Expr.Redeclared value value' →
      StmtKind.Redeclared (.send channel value) (.send channel' value')
  | incDec {operand operand' : Expr} (increment : Bool) : Expr.Redeclared operand operand' →
      StmtKind.Redeclared (.incDec operand increment) (.incDec operand' increment)
  | assign {targets targets' values values' : List Expr} (op : AssignOp) :
      List.Forall₂ Expr.Redeclared targets targets' → List.Forall₂ Expr.Redeclared values values' →
      StmtKind.Redeclared (.assign targets op values) (.assign targets' op values')
  | go {call call' : Expr} : Expr.Redeclared call call' →
      StmtKind.Redeclared (.go call) (.go call')
  | defer {call call' : Expr} : Expr.Redeclared call call' →
      StmtKind.Redeclared (.defer call) (.defer call')
  | ret {results results' : List Expr} : List.Forall₂ Expr.Redeclared results results' →
      StmtKind.Redeclared (.ret results) (.ret results')
  | branch (keyword : BranchKeyword) (label : Option Ident) :
      StmtKind.Redeclared (.branch keyword label) (.branch keyword label)
  | block {block block' : Block} : Block.Redeclared block block' →
      StmtKind.Redeclared (.block block) (.block block')
  | conditional {init init' alternative alternative' : Option Stmt} {condition condition' : Expr}
      {body body' : Block} : Option.Rel Stmt.Redeclared init init' →
      Expr.Redeclared condition condition' → Block.Redeclared body body' →
      Option.Rel Stmt.Redeclared alternative alternative' →
      StmtKind.Redeclared (.conditional init condition body alternative)
        (.conditional init' condition' body' alternative')
  | switch {init init' : Option Stmt} {tag tag' : Option Expr}
      {clauses clauses' : List CaseClause} :
      Option.Rel Stmt.Redeclared init init' → Option.Rel Expr.Redeclared tag tag' →
      List.Forall₂ CaseClause.Redeclared clauses clauses' →
      StmtKind.Redeclared (.switch init tag clauses) (.switch init' tag' clauses')
  | typeSwitch {init init' : Option Stmt} (binding : Option Ident) {subject subject' : Expr}
      {clauses clauses' : List CaseClause} : Option.Rel Stmt.Redeclared init init' →
      Expr.Redeclared subject subject' → List.Forall₂ CaseClause.Redeclared clauses clauses' →
      StmtKind.Redeclared (.typeSwitch init binding subject clauses)
        (.typeSwitch init' binding subject' clauses')
  | select {clauses clauses' : List CommClause} :
      List.Forall₂ CommClause.Redeclared clauses clauses' →
      StmtKind.Redeclared (.select clauses) (.select clauses')
  | loop {init init' post post' : Option Stmt} {condition condition' : Option Expr}
      {body body' : Block} : Option.Rel Stmt.Redeclared init init' →
      Option.Rel Expr.Redeclared condition condition' → Option.Rel Stmt.Redeclared post post' →
      Block.Redeclared body body' →
      StmtKind.Redeclared (.loop init condition post body) (.loop init' condition' post' body')
  | range {key key' value value' : Option Expr} (define : Bool) {subject subject' : Expr}
      {body body' : Block} : Option.Rel Expr.Redeclared key key' →
      Option.Rel Expr.Redeclared value value' → Expr.Redeclared subject subject' →
      Block.Redeclared body body' →
      StmtKind.Redeclared (.range key value define subject body)
        (.range key' value' define subject' body')

/-- Two clauses of a switch, the same but for their type declarations. -/
inductive CaseClause.Redeclared : CaseClause → CaseClause → Prop
  | mk (doc : List Comment) {list list' : Option (List Expr)} {body body' : List Stmt} :
      Option.Rel (List.Forall₂ Expr.Redeclared) list list' →
      List.Forall₂ Stmt.Redeclared body body' →
      CaseClause.Redeclared ⟨doc, list, body⟩ ⟨doc, list', body'⟩

/-- Two clauses of a select statement, the same but for their type declarations. -/
inductive CommClause.Redeclared : CommClause → CommClause → Prop
  | mk (doc : List Comment) {comm comm' : Option Stmt} {body body' : List Stmt} :
      Option.Rel Stmt.Redeclared comm comm' → List.Forall₂ Stmt.Redeclared body body' →
      CommClause.Redeclared ⟨doc, comm, body⟩ ⟨doc, comm', body'⟩

end

/-- Two functions or methods, the same but for the type declarations inside. -/
inductive FuncDecl.Redeclared : FuncDecl → FuncDecl → Prop
  | mk (doc : List Comment) {receiver receiver' : Option FieldList} (name : Ident)
      {signature signature' : Signature} {body body' : Option Block} :
      Option.Rel (FieldList.Redeclared exchanged) receiver receiver' →
      Signature.Redeclared exchanged signature signature' →
      Option.Rel (Block.Redeclared exchanged) body body' →
      FuncDecl.Redeclared ⟨doc, receiver, name, signature, body⟩
        ⟨doc, receiver', name, signature', body'⟩

/-- Two top-level declarations, the same but for type declarations. -/
inductive Decl.Redeclared : Decl → Decl → Prop
  | gen {decl decl' : GenDecl} : GenDecl.Redeclared exchanged decl decl' →
      Decl.Redeclared (.gen decl) (.gen decl')
  | func {decl decl' : FuncDecl} : FuncDecl.Redeclared exchanged decl decl' →
      Decl.Redeclared (.func decl) (.func decl')

end

/-! ## Edits of one type entry -/

section

variable (offset : Option Nat) (change : TypeSpec → TypeSpec)
  (exchanged : GenDecl → GenDecl → Prop)

/-- The edit changes type declarations only, and exchanges each of them. -/
def Exchanges (parts : List Part) : Prop :=
  ∀ part ∈ parts, match part with
    | .name ident => ident.offset ≠ offset
    | .types decl => exchanged decl (decl.rebuild id (TypeSpec.editAt offset change))

variable {offset change exchanged}

theorem Exchanges.both {before after : List Part} {first second : Prop}
    (ofBefore : Exchanges offset change exchanged before → first)
    (ofAfter : Exchanges offset change exchanged after → second)
    (exchanges : Exchanges offset change exchanged (before ++ after)) : first ∧ second :=
  ⟨ofBefore (List.forall_mem_append.1 exchanges).1, ofAfter (List.forall_mem_append.1 exchanges).2⟩

variable (offset change exchanged)

-- Each case holds by unfolding and by what holds of the parts of the node.
mutual

theorem Expr.redeclared : (expr : Expr) → Exchanges offset change exchanged expr.parts →
    expr.Redeclared exchanged (expr.rebuild id (TypeSpec.editAt offset change))
  | .ident name => fun _ => .ident name
  | .literal value => fun _ => .literal value
  | .composite type elements multiline => by
      have ofType := Expr.redeclaredOptional type
      have ofElements := Expr.redeclaredAll elements
      cases type <;> exact fun exchanges =>
        have ⟨type, elements⟩ := Exchanges.both ofType ofElements exchanges
        .composite multiline type elements
  | .function signature body => fun exchanges =>
      have ⟨signature, body⟩ :=
        Exchanges.both (Signature.redeclared signature) (Block.redeclared body) exchanges
      .function signature body
  | .paren inner => fun exchanges => .paren (Expr.redeclared inner exchanges)
  | .selector base name => fun exchanges =>
      have ⟨base, _⟩ := Exchanges.both (Expr.redeclared base) id exchanges
      .selector name base
  | .index base position => fun exchanges =>
      have ⟨base, position⟩ :=
        Exchanges.both (Expr.redeclared base) (Expr.redeclared position) exchanges
      .index base position
  | .slice base low high max => by
      have ofBase := Expr.redeclared base
      have ofLow := Expr.redeclaredOptional low
      have ofHigh := Expr.redeclaredOptional high
      have ofMax := Expr.redeclaredOptional max
      cases low <;> cases high <;> cases max <;> exact fun exchanges =>
        have ⟨⟨⟨base, low⟩, high⟩, max⟩ := Exchanges.both (Exchanges.both
          (Exchanges.both ofBase ofLow) ofHigh) ofMax exchanges
        .slice base low high max
  | .assertion base type => by
      have ofBase := Expr.redeclared base
      have ofType := Expr.redeclaredOptional type
      cases type <;> exact fun exchanges =>
        have ⟨base, type⟩ := Exchanges.both ofBase ofType exchanges
        .assertion base type
  | .call callee arguments spread => fun exchanges =>
      have ⟨callee, arguments⟩ :=
        Exchanges.both (Expr.redeclared callee) (Expr.redeclaredAll arguments) exchanges
      .call spread callee arguments
  | .star inner => fun exchanges => .star (Expr.redeclared inner exchanges)
  | .unary op operand => fun exchanges => .unary op (Expr.redeclared operand exchanges)
  | .binary left op right => fun exchanges =>
      have ⟨left, right⟩ := Exchanges.both (Expr.redeclared left) (Expr.redeclared right) exchanges
      .binary op left right
  | .keyValue key value => fun exchanges =>
      have ⟨key, value⟩ := Exchanges.both (Expr.redeclared key) (Expr.redeclared value) exchanges
      .keyValue key value
  | .arrayType length element => fun exchanges =>
      have ⟨length, element⟩ :=
        Exchanges.both (ArrayLength.redeclared length) (Expr.redeclared element) exchanges
      .arrayType length element
  | .mapType key value => fun exchanges =>
      have ⟨key, value⟩ := Exchanges.both (Expr.redeclared key) (Expr.redeclared value) exchanges
      .mapType key value
  | .chanType direction element => fun exchanges =>
      .chanType direction (Expr.redeclared element exchanges)
  | .funcType signature => fun exchanges => .funcType (Signature.redeclared signature exchanges)
  | .structType fields => fun exchanges => .structType (FieldList.redeclared fields exchanges)
  | .interfaceType methods => fun exchanges =>
      .interfaceType (FieldList.redeclared methods exchanges)
  | .variadic element => fun exchanges => .variadic (Expr.redeclared element exchanges)

theorem Expr.redeclaredOptional : (expr : Option Expr) →
    Exchanges offset change exchanged (expr.elim [] (·.parts)) →
      Option.Rel (Expr.Redeclared exchanged) expr
        (expr.map (·.rebuild id (TypeSpec.editAt offset change)))
  | none => fun _ => .none
  | some expr => fun exchanges => .some (Expr.redeclared expr exchanges)

theorem Expr.redeclaredAll : (exprs : List Expr) →
    Exchanges offset change exchanged
      (Expr.collectAll (fun ident => [.name ident]) Part.ofDecl? exprs) →
      List.Forall₂ (Expr.Redeclared exchanged) exprs
        (Expr.rebuildAll id (TypeSpec.editAt offset change) exprs)
  | [] => fun _ => .nil
  | expr :: rest => fun exchanges =>
      have ⟨expr, rest⟩ := Exchanges.both (Expr.redeclared expr) (Expr.redeclaredAll rest) exchanges
      .cons expr rest

theorem ArrayLength.redeclared : (length : ArrayLength) →
    Exchanges offset change exchanged
      (length.collect (fun ident => [.name ident]) Part.ofDecl?) →
      length.Redeclared exchanged (length.rebuild id (TypeSpec.editAt offset change))
  | .slice => fun _ => .slice
  | .inferred => fun _ => .inferred
  | .fixed size => fun exchanges => .fixed (Expr.redeclared size exchanges)

theorem Field.redeclaredAll : (fields : List Field) →
    Exchanges offset change exchanged
      (Field.collectAll (fun ident => [.name ident]) Part.ofDecl? fields) →
      List.Forall₂ (Field.Redeclared exchanged) fields
        (Field.rebuildAll id (TypeSpec.editAt offset change) fields)
  | [] => fun _ => .nil
  | ⟨doc, names, type, tag, comment⟩ :: rest => fun exchanges => by
      have ⟨⟨_, type⟩, rest⟩ := Exchanges.both (Exchanges.both id (Expr.redeclared type))
        (Field.redeclaredAll rest) exchanges
      have same : names.map id = names := List.map_id names
      exact .cons (by simp only [Field.rebuild, same]; exact .mk doc names tag comment type) rest

theorem FieldList.redeclared : (list : FieldList) →
    Exchanges offset change exchanged (list.collect (fun ident => [.name ident]) Part.ofDecl?) →
      list.Redeclared exchanged (list.rebuild id (TypeSpec.editAt offset change))
  | ⟨fields, closing⟩ => fun exchanges => .mk closing (Field.redeclaredAll fields exchanges)

theorem FieldList.redeclaredOptional : (list : Option FieldList) →
    Exchanges offset change exchanged
      (list.elim [] (·.collect (fun ident => [.name ident]) Part.ofDecl?)) →
      Option.Rel (FieldList.Redeclared exchanged) list
        (list.map (·.rebuild id (TypeSpec.editAt offset change)))
  | none => fun _ => .none
  | some list => fun exchanges => .some (FieldList.redeclared list exchanges)

theorem Signature.redeclared : (signature : Signature) →
    Exchanges offset change exchanged
      (signature.collect (fun ident => [.name ident]) Part.ofDecl?) →
      signature.Redeclared exchanged (signature.rebuild id (TypeSpec.editAt offset change))
  | ⟨params, results⟩ => by
      have ofParams := FieldList.redeclared params
      have ofResults := FieldList.redeclaredOptional results
      cases results <;> exact fun exchanges =>
        have ⟨params, results⟩ := Exchanges.both ofParams ofResults exchanges
        .mk params results

theorem Spec.redeclared : (spec : Spec) →
    Exchanges offset change exchanged (spec.collect (fun ident => [.name ident]) Part.ofDecl?) →
      spec.Redeclared exchanged (spec.rebuild id (TypeSpec.editAt offset change))
  | .imported ⟨doc, none, path, comment⟩ => fun _ => .imported ⟨doc, none, path, comment⟩
  | .imported ⟨doc, some name, path, comment⟩ => fun _ => .imported ⟨doc, some name, path, comment⟩
  | .value ⟨doc, names, type, values, comment⟩ => by
      have ofType := Expr.redeclaredOptional type
      have ofValues := Expr.redeclaredAll values
      have same : names.map id = names := List.map_id names
      cases type <;> exact fun exchanges => by
        have ⟨⟨_, type⟩, values⟩ := Exchanges.both (Exchanges.both id ofType) ofValues exchanges
        simp only [Spec.rebuild, ValueSpec.rebuild, same]
        exact .value doc names comment type values
  | .type ⟨doc, name, isAlias, type, comment⟩ => fun exchanges => by
      have ⟨elsewhere, type⟩ := Exchanges.both id (Expr.redeclared type) exchanges
      have apart : name.offset ≠ offset := elsewhere (.name name) List.mem_cons_self
      simp only [Spec.rebuild, TypeSpec.editAt, if_neg apart]
      exact .type doc name isAlias comment type

theorem Spec.redeclaredAll : (specs : List Spec) →
    Exchanges offset change exchanged (Spec.partsAll specs) →
      List.Forall₂ (Spec.Redeclared exchanged) specs
        (Spec.rebuildAll id (TypeSpec.editAt offset change) specs)
  | [] => fun _ => .nil
  | spec :: rest => fun exchanges =>
      have ⟨spec, rest⟩ := Exchanges.both (Spec.redeclared spec) (Spec.redeclaredAll rest) exchanges
      .cons spec rest

theorem GenDecl.redeclared : (decl : GenDecl) →
    Exchanges offset change exchanged (decl.collect (fun ident => [.name ident]) Part.ofDecl?) →
      decl.Redeclared exchanged (decl.rebuild id (TypeSpec.editAt offset change))
  | ⟨doc, keyword, grouped, specs, start⟩ => fun exchanges => by
      have ofSpecs := Spec.redeclaredAll specs
      simp only [GenDecl.collect, Part.ofDecl?] at exchanges
      by_cases isTypes : keyword = .types
      · rw [if_pos isTypes] at exchanges
        exact .whole (exchanges _ List.mem_cons_self)
      · rw [if_neg isTypes] at exchanges
        exact .inside doc keyword grouped start (ofSpecs exchanges)

theorem Block.redeclared : (block : Block) → Exchanges offset change exchanged block.parts →
    block.Redeclared exchanged (block.rebuild id (TypeSpec.editAt offset change))
  | ⟨stmts, closing⟩ => fun exchanges => .mk closing (Stmt.redeclaredAll stmts exchanges)

theorem Block.redeclaredOptional : (block : Option Block) →
    Exchanges offset change exchanged (block.elim [] (·.parts)) →
      Option.Rel (Block.Redeclared exchanged) block
        (block.map (·.rebuild id (TypeSpec.editAt offset change)))
  | none => fun _ => .none
  | some block => fun exchanges => .some (Block.redeclared block exchanges)

theorem Stmt.redeclaredAll : (stmts : List Stmt) →
    Exchanges offset change exchanged
      (Stmt.collectAll (fun ident => [.name ident]) Part.ofDecl? stmts) →
      List.Forall₂ (Stmt.Redeclared exchanged) stmts
        (Stmt.rebuildAll id (TypeSpec.editAt offset change) stmts)
  | [] => fun _ => .nil
  | stmt :: rest => fun exchanges =>
      have ⟨stmt, rest⟩ := Exchanges.both (Stmt.redeclared stmt) (Stmt.redeclaredAll rest) exchanges
      .cons stmt rest

theorem Stmt.redeclared : (stmt : Stmt) →
    Exchanges offset change exchanged (stmt.collect (fun ident => [.name ident]) Part.ofDecl?) →
      stmt.Redeclared exchanged (stmt.rebuild id (TypeSpec.editAt offset change))
  | ⟨doc, kind, comment⟩ => fun exchanges => .mk doc comment (StmtKind.redeclared kind exchanges)

theorem Stmt.redeclaredOptional : (stmt : Option Stmt) →
    Exchanges offset change exchanged
      (stmt.elim [] (·.collect (fun ident => [.name ident]) Part.ofDecl?)) →
      Option.Rel (Stmt.Redeclared exchanged) stmt
        (stmt.map (·.rebuild id (TypeSpec.editAt offset change)))
  | none => fun _ => .none
  | some stmt => fun exchanges => .some (Stmt.redeclared stmt exchanges)

theorem StmtKind.redeclared : (kind : StmtKind) →
    Exchanges offset change exchanged (kind.collect (fun ident => [.name ident]) Part.ofDecl?) →
      kind.Redeclared exchanged (kind.rebuild id (TypeSpec.editAt offset change))
  | .decl decl => fun exchanges => .decl (GenDecl.redeclared decl exchanges)
  | .empty => fun _ => .empty
  | .labeled label stmt => fun exchanges =>
      have ⟨_, stmt⟩ := Exchanges.both id (Stmt.redeclared stmt) exchanges
      .labeled label stmt
  | .expr expr => fun exchanges => .expr (Expr.redeclared expr exchanges)
  | .send channel value => fun exchanges =>
      have ⟨channel, value⟩ :=
        Exchanges.both (Expr.redeclared channel) (Expr.redeclared value) exchanges
      .send channel value
  | .incDec operand increment => fun exchanges =>
      .incDec increment (Expr.redeclared operand exchanges)
  | .assign targets op values => fun exchanges =>
      have ⟨targets, values⟩ :=
        Exchanges.both (Expr.redeclaredAll targets) (Expr.redeclaredAll values) exchanges
      .assign op targets values
  | .go call => fun exchanges => .go (Expr.redeclared call exchanges)
  | .defer call => fun exchanges => .defer (Expr.redeclared call exchanges)
  | .ret results => fun exchanges => .ret (Expr.redeclaredAll results exchanges)
  | .branch keyword none => fun _ => .branch keyword none
  | .branch keyword (some label) => fun _ => .branch keyword (some label)
  | .block block => fun exchanges => .block (Block.redeclared block exchanges)
  | .conditional init condition body alternative => by
      have ofInit := Stmt.redeclaredOptional init
      have ofCondition := Expr.redeclared condition
      have ofBody := Block.redeclared body
      have ofAlternative := Stmt.redeclaredOptional alternative
      cases init <;> cases alternative <;> exact fun exchanges =>
        have ⟨⟨⟨init, condition⟩, body⟩, alternative⟩ := Exchanges.both (Exchanges.both
          (Exchanges.both ofInit ofCondition) ofBody) ofAlternative exchanges
        .conditional init condition body alternative
  | .switch init tag clauses => by
      have ofInit := Stmt.redeclaredOptional init
      have ofTag := Expr.redeclaredOptional tag
      have ofClauses := CaseClause.redeclaredAll clauses
      cases init <;> cases tag <;> exact fun exchanges =>
        have ⟨⟨init, tag⟩, clauses⟩ :=
          Exchanges.both (Exchanges.both ofInit ofTag) ofClauses exchanges
        .switch init tag clauses
  | .typeSwitch init none subject clauses => by
      have ofInit := Stmt.redeclaredOptional init
      have ofSubject := Expr.redeclared subject
      have ofClauses := CaseClause.redeclaredAll clauses
      cases init <;> exact fun exchanges =>
        have ⟨⟨⟨init, _⟩, subject⟩, clauses⟩ := Exchanges.both (Exchanges.both
          (Exchanges.both ofInit id) ofSubject) ofClauses exchanges
        .typeSwitch none init subject clauses
  | .typeSwitch init (some binding) subject clauses => by
      have ofInit := Stmt.redeclaredOptional init
      have ofSubject := Expr.redeclared subject
      have ofClauses := CaseClause.redeclaredAll clauses
      cases init <;> exact fun exchanges =>
        have ⟨⟨⟨init, _⟩, subject⟩, clauses⟩ := Exchanges.both (Exchanges.both
          (Exchanges.both ofInit id) ofSubject) ofClauses exchanges
        .typeSwitch (some binding) init subject clauses
  | .select clauses => fun exchanges => .select (CommClause.redeclaredAll clauses exchanges)
  | .loop init condition post body => by
      have ofInit := Stmt.redeclaredOptional init
      have ofCondition := Expr.redeclaredOptional condition
      have ofPost := Stmt.redeclaredOptional post
      have ofBody := Block.redeclared body
      cases init <;> cases condition <;> cases post <;> exact fun exchanges =>
        have ⟨⟨⟨init, condition⟩, post⟩, body⟩ := Exchanges.both (Exchanges.both
          (Exchanges.both ofInit ofCondition) ofPost) ofBody exchanges
        .loop init condition post body
  | .range key value define subject body => by
      have ofKey := Expr.redeclaredOptional key
      have ofValue := Expr.redeclaredOptional value
      have ofSubject := Expr.redeclared subject
      have ofBody := Block.redeclared body
      cases key <;> cases value <;> exact fun exchanges =>
        have ⟨⟨⟨key, value⟩, subject⟩, body⟩ := Exchanges.both (Exchanges.both
          (Exchanges.both ofKey ofValue) ofSubject) ofBody exchanges
        .range define key value subject body

theorem CaseClause.redeclaredAll : (clauses : List CaseClause) →
    Exchanges offset change exchanged
      (CaseClause.collectAll (fun ident => [.name ident]) Part.ofDecl? clauses) →
      List.Forall₂ (CaseClause.Redeclared exchanged) clauses
        (CaseClause.rebuildAll id (TypeSpec.editAt offset change) clauses)
  | [] => fun _ => .nil
  | ⟨doc, none, body⟩ :: rest => fun exchanges =>
      have ⟨body, rest⟩ :=
        Exchanges.both (Stmt.redeclaredAll body) (CaseClause.redeclaredAll rest) exchanges
      .cons (.mk doc .none body) rest
  | ⟨doc, some list, body⟩ :: rest => fun exchanges =>
      have ⟨⟨list, body⟩, rest⟩ := Exchanges.both (Exchanges.both (Expr.redeclaredAll list)
        (Stmt.redeclaredAll body)) (CaseClause.redeclaredAll rest) exchanges
      .cons (.mk doc (.some list) body) rest

theorem CommClause.redeclaredAll : (clauses : List CommClause) →
    Exchanges offset change exchanged
      (CommClause.collectAll (fun ident => [.name ident]) Part.ofDecl? clauses) →
      List.Forall₂ (CommClause.Redeclared exchanged) clauses
        (CommClause.rebuildAll id (TypeSpec.editAt offset change) clauses)
  | [] => fun _ => .nil
  | ⟨doc, comm, body⟩ :: rest => by
      have ofComm := Stmt.redeclaredOptional comm
      have ofBody := Stmt.redeclaredAll body
      have ofRest := CommClause.redeclaredAll rest
      cases comm <;> exact fun exchanges =>
        have ⟨⟨comm, body⟩, rest⟩ :=
          Exchanges.both (Exchanges.both ofComm ofBody) ofRest exchanges
        .cons (.mk doc comm body) rest

end

theorem FuncDecl.redeclared (decl : FuncDecl)
    (exchanges : Exchanges offset change exchanged
      (decl.collect (fun ident => [.name ident]) Part.ofDecl?)) :
    decl.Redeclared exchanged (decl.rebuild id (TypeSpec.editAt offset change)) := by
  obtain ⟨doc, receiver, name, signature, body⟩ := decl
  have ofReceiver := FieldList.redeclaredOptional offset change exchanged receiver
  have ofSignature := Signature.redeclared offset change exchanged signature
  have ofBody := Block.redeclaredOptional offset change exchanged body
  cases receiver <;> cases body <;> exact
    have ⟨⟨⟨receiver, _⟩, signature⟩, body⟩ := Exchanges.both (Exchanges.both
      (Exchanges.both ofReceiver id) ofSignature) ofBody exchanges
    .mk doc name receiver signature body

theorem Decl.redeclared : (decl : Decl) → Exchanges offset change exchanged decl.parts →
    decl.Redeclared exchanged (decl.rebuild id (TypeSpec.editAt offset change))
  | .gen decl => fun exchanges => .gen (GenDecl.redeclared offset change exchanged decl exchanges)
  | .func decl => fun exchanges =>
      .func (FuncDecl.redeclared offset change exchanged decl exchanges)

/-- An edit of a type entry makes declarations that are the same but for the type declarations
that it exchanges. -/
theorem File.redeclared (file : File) (exchanges : Exchanges offset change exchanged file.parts) :
    List.Forall₂ (Decl.Redeclared exchanged) file.decls (file.editTypeAt offset change).decls := by
  have inDecls := (List.forall_mem_append.1 exchanges).2
  rw [List.forall_mem_flatMap] at inDecls
  exact List.forall₂_map_right_iff.2 (List.forall₂_same.2 fun decl member =>
    Decl.redeclared offset change exchanged decl (inDecls decl member))

end

/-! ## A file with the struct edited that a pattern finds -/

namespace File

variable {pattern : Matcher} {file : File} {spec : TypeSpec} {decl : GenDecl}

/-- The first struct that fits in the last type declaration that has one.  Type declarations count
wherever they stand, but for those inside another type declaration. -/
structure LastStruct (pattern : Matcher) (file : File) (heads : List GenDecl) (decl : GenDecl)
    (tails : List GenDecl) (before : List Spec) (spec : TypeSpec) (after : List Spec) : Prop where
  sections : file.typeDecls = heads ++ decl :: tails
  entries : decl.specs = before ++ .type spec :: after
  fits : spec.Fits pattern
  first : ∀ earlier, .type earlier ∈ before → ¬earlier.Fits pattern
  last : ∀ later ∈ tails, ∀ entry, .type entry ∈ later.specs → ¬entry.Fits pattern

/-- The declarations are those of the file but for one type declaration, in whose place another one
stands. -/
structure Exchanged (file : File) (heads : List GenDecl) (decl decl' : GenDecl)
    (tails : List GenDecl) (decls : List Decl) : Prop where
  redeclared : List.Forall₂ (Decl.Redeclared fun old new => new = old ∨ old = decl ∧ new = decl')
    file.decls decls
  typeDecls : decls.flatMap Decl.typeDecls = heads ++ decl' :: tails

theorem structure?_eq_none_iff : file.structure? pattern = none ↔
    ∀ decl ∈ file.typeDecls, ∀ entry, .type entry ∈ decl.specs → ¬entry.Fits pattern := by
  simp only [structure?, List.getLast?_eq_none_iff, List.filterMap_eq_nil_iff,
    GenDecl.structure?_eq_none_iff]

section

variable {heads tails : List Part} {before after : List Spec} {change : TypeSpec → TypeSpec}
  (locates : Locates pattern file.parts heads spec decl tails)
  (declares : decl.Declares pattern before spec after)

include locates declares

theorem Locates.lastStruct : file.LastStruct pattern (heads.flatMap Part.typeDecls) decl
    (tails.flatMap Part.typeDecls) before spec after where
  sections := locates.typeDecls
  entries := declares.sections
  fits := declares.fits
  first := declares.first
  last := by
    intro later member
    obtain ⟨part, isTail, inPart⟩ := List.mem_flatMap.1 member
    cases part with
    | name => cases inPart
    | types other =>
        rw [List.mem_singleton.1 inPart]
        exact GenDecl.structure?_eq_none_iff.1 (locates.last _ isTail)

/-- An edit of the struct exchanges the declaration that it stands in. -/
theorem Locates.exchanged : file.Exchanged (heads.flatMap Part.typeDecls) decl
    { decl with specs := before ++ .type (change spec) :: after } (tails.flatMap Part.typeDecls)
    (file.editTypeAt spec.name.offset change).decls where
  redeclared := by
    apply File.redeclared
    intro part member
    cases part with
    | name ident => exact locates.outside ident member
    | types other =>
        by_cases isDecl : other = decl
        · subst isDecl
          exact .inr ⟨rfl, declares.rebuild_eq_replace⟩
        · rw [locates.sections] at member
          have apart := locates.apart (.types other) (by simpa [isDecl] using member)
          exact .inl (Part.types.inj apart.edit_eq)
  typeDecls := declares.rebuild_eq_replace ▸ locates.typeDecls_editTypeAt

end

end File

end GoMend
