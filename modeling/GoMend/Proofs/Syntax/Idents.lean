import GoMend.Syntax.Walk

/-!
# Occurrences of names in the parts of a tree

The walk that lists the occurrences of names in a file, started at each part of the
tree.  Rebuilding a tree with a change of names keeps every node; the walk over the new
tree finds the changed names in the order of the old ones.
-/

namespace GoMend

/-- The occurrences of names in an expression or a type. -/
abbrev Expr.idents (expr : Expr) : List Ident :=
  expr.collect (fun ident => [ident]) fun _ => none

/-- The occurrences of names in a list of expressions. -/
abbrev Expr.identsAll (exprs : List Expr) : List Ident :=
  Expr.collectAll (fun ident => [ident]) (fun _ => none) exprs

/-- The occurrences of names in the length of an array type. -/
abbrev ArrayLength.idents (length : ArrayLength) : List Ident :=
  length.collect (fun ident => [ident]) fun _ => none

/-- The occurrences of names in a list of fields. -/
abbrev Field.identsAll (fields : List Field) : List Ident :=
  Field.collectAll (fun ident => [ident]) (fun _ => none) fields

/-- The occurrences of names in a bracketed list of fields. -/
abbrev FieldList.idents (list : FieldList) : List Ident :=
  list.collect (fun ident => [ident]) fun _ => none

/-- The occurrences of names in the parameters and results of a function. -/
abbrev Signature.idents (signature : Signature) : List Ident :=
  signature.collect (fun ident => [ident]) fun _ => none

/-- The occurrences of names in an entry of a declaration. -/
abbrev Spec.idents (spec : Spec) : List Ident :=
  spec.collect (fun ident => [ident]) fun _ => none

/-- The occurrences of names in the entries of a declaration. -/
abbrev Spec.identsAll (specs : List Spec) : List Ident :=
  Spec.collectAll (fun ident => [ident]) (fun _ => none) specs

/-- The occurrences of names in a declaration with entries. -/
abbrev GenDecl.idents (decl : GenDecl) : List Ident :=
  decl.collect (fun ident => [ident]) fun _ => none

/-- The occurrences of names in a block. -/
abbrev Block.idents (block : Block) : List Ident :=
  block.collect (fun ident => [ident]) fun _ => none

/-- The occurrences of names in a statement. -/
abbrev Stmt.idents (stmt : Stmt) : List Ident :=
  stmt.collect (fun ident => [ident]) fun _ => none

/-- The occurrences of names in a list of statements. -/
abbrev Stmt.identsAll (stmts : List Stmt) : List Ident :=
  Stmt.collectAll (fun ident => [ident]) (fun _ => none) stmts

/-- The occurrences of names in a statement without its comments. -/
abbrev StmtKind.idents (kind : StmtKind) : List Ident :=
  kind.collect (fun ident => [ident]) fun _ => none

/-- The occurrences of names in the clauses of a switch. -/
abbrev CaseClause.identsAll (clauses : List CaseClause) : List Ident :=
  CaseClause.collectAll (fun ident => [ident]) (fun _ => none) clauses

/-- The occurrences of names in the clauses of a select statement. -/
abbrev CommClause.identsAll (clauses : List CommClause) : List Ident :=
  CommClause.collectAll (fun ident => [ident]) (fun _ => none) clauses

/-- The occurrences of names in a function or method. -/
abbrev FuncDecl.idents (decl : FuncDecl) : List Ident :=
  decl.collect (fun ident => [ident]) fun _ => none

/-- The occurrences of names in a top-level declaration. -/
abbrev Decl.idents (decl : Decl) : List Ident :=
  decl.collect (fun ident => [ident]) fun _ => none

/-! ## Collecting from a tree with other names -/

section

variable {α β : Type}

/-- What two ways to collect have to do with each other, of which the second is for the tree with
the names changed: it finds what the first one finds, carried over. -/
structure Transfers (change : Ident → Ident) (carry : α → β) (onIdent : Ident → List α)
    (onDecl : GenDecl → Option (List α)) (onIdent' : Ident → List β)
    (onDecl' : GenDecl → Option (List β)) : Prop where
  ident : ∀ ident, onIdent' (change ident) = (onIdent ident).map carry
  decl : ∀ decl, onDecl' (decl.rebuild change fun _ => none) = (onDecl decl).map (List.map carry)

theorem transfers_idents (change : Ident → Ident) :
    Transfers change change (fun ident => [ident]) (fun _ => none) (fun ident => [ident])
      fun _ => none where
  ident := fun _ => rfl
  decl := fun _ => rfl

theorem carried_append {carry : α → β} {before after : List α} {before' after' : List β}
    (first : before' = before.map carry) (second : after' = after.map carry) :
    before' ++ after' = (before ++ after).map carry := by
  rw [first, second, List.map_append]

variable {change : Ident → Ident} {carry : α → β} {onIdent : Ident → List α}
  {onDecl : GenDecl → Option (List α)} {onIdent' : Ident → List β}
  {onDecl' : GenDecl → Option (List β)}
  (transfers : Transfers change carry onIdent onDecl onIdent' onDecl')

include transfers

theorem Transfers.names (names : List Ident) :
    (names.map change).flatMap onIdent' = (names.flatMap onIdent).map carry := by
  rw [List.flatMap_map, List.map_flatMap]
  exact congrArg names.flatMap (funext transfers.ident)

theorem Transfers.optional (name : Option Ident) :
    (name.map change).elim [] onIdent' = (name.elim [] onIdent).map carry := by
  cases name with
  | none => rfl
  | some name => exact transfers.ident name

-- Each case holds by unfolding and by what holds of the parts; rewriting with the equations of
-- the walks would take far longer.
set_option linter.unusedSectionVars false in
mutual

theorem Expr.collect_rebuild :
    (expr : Expr) → (expr.rebuild change fun _ => none).collect onIdent' onDecl' =
        (expr.collect onIdent onDecl).map carry
  | .ident name => transfers.ident name
  | .literal _ => rfl
  | .composite type elements _ => by
      have typeCarried := Expr.collect_rebuildOptional type
      have elementsCarried := Expr.collectAll_rebuild elements
      cases type <;> exact carried_append typeCarried elementsCarried
  | .function signature body =>
      carried_append (Signature.collect_rebuild signature) (Block.collect_rebuild body)
  | .paren inner => Expr.collect_rebuild inner
  | .selector base name => carried_append (Expr.collect_rebuild base) (transfers.ident name)
  | .index base position =>
      carried_append (Expr.collect_rebuild base) (Expr.collect_rebuild position)
  | .slice base low high max => by
      have baseCarried := Expr.collect_rebuild base
      have lowCarried := Expr.collect_rebuildOptional low
      have highCarried := Expr.collect_rebuildOptional high
      have maxCarried := Expr.collect_rebuildOptional max
      cases low <;> cases high <;> cases max <;>
        exact carried_append (carried_append (carried_append baseCarried lowCarried) highCarried)
          maxCarried
  | .assertion base type => by
      have baseCarried := Expr.collect_rebuild base
      have typeCarried := Expr.collect_rebuildOptional type
      cases type <;> exact carried_append baseCarried typeCarried
  | .call callee arguments _ =>
      carried_append (Expr.collect_rebuild callee) (Expr.collectAll_rebuild arguments)
  | .star inner => Expr.collect_rebuild inner
  | .unary _ operand => Expr.collect_rebuild operand
  | .binary left _ right => carried_append (Expr.collect_rebuild left) (Expr.collect_rebuild right)
  | .keyValue key value => carried_append (Expr.collect_rebuild key) (Expr.collect_rebuild value)
  | .arrayType length element =>
      carried_append (ArrayLength.collect_rebuild length) (Expr.collect_rebuild element)
  | .mapType key value => carried_append (Expr.collect_rebuild key) (Expr.collect_rebuild value)
  | .chanType _ element => Expr.collect_rebuild element
  | .funcType signature => Signature.collect_rebuild signature
  | .structType fields => FieldList.collect_rebuild fields
  | .interfaceType methods => FieldList.collect_rebuild methods
  | .variadic element => Expr.collect_rebuild element

theorem Expr.collect_rebuildOptional :
    (expr : Option Expr) →
      (expr.map (·.rebuild change fun _ => none)).elim [] (·.collect onIdent' onDecl') =
        (expr.elim [] (·.collect onIdent onDecl)).map carry
  | none => rfl
  | some expr => Expr.collect_rebuild expr

theorem Expr.collectAll_rebuild :
    (exprs : List Expr) →
      Expr.collectAll onIdent' onDecl' (Expr.rebuildAll change (fun _ => none) exprs) =
        (Expr.collectAll onIdent onDecl exprs).map carry
  | [] => rfl
  | expr :: rest => carried_append (Expr.collect_rebuild expr) (Expr.collectAll_rebuild rest)

theorem ArrayLength.collect_rebuild :
    (length : ArrayLength) →
      (length.rebuild change fun _ => none).collect onIdent' onDecl' =
        (length.collect onIdent onDecl).map carry
  | .slice | .inferred => rfl
  | .fixed size => Expr.collect_rebuild size

theorem Field.collectAll_rebuild :
    (fields : List Field) →
      Field.collectAll onIdent' onDecl' (Field.rebuildAll change (fun _ => none) fields) =
        (Field.collectAll onIdent onDecl fields).map carry
  | [] => rfl
  | ⟨_, names, type, _, _⟩ :: rest =>
      carried_append (carried_append (transfers.names names) (Expr.collect_rebuild type))
        (Field.collectAll_rebuild rest)

theorem FieldList.collect_rebuild :
    (list : FieldList) → (list.rebuild change fun _ => none).collect onIdent' onDecl' =
        (list.collect onIdent onDecl).map carry
  | ⟨fields, _⟩ => Field.collectAll_rebuild fields

theorem FieldList.collect_rebuildOptional :
    (list : Option FieldList) →
      (list.map (·.rebuild change fun _ => none)).elim [] (·.collect onIdent' onDecl') =
        (list.elim [] (·.collect onIdent onDecl)).map carry
  | none => rfl
  | some list => FieldList.collect_rebuild list

theorem Signature.collect_rebuild :
    (signature : Signature) →
      (signature.rebuild change fun _ => none).collect onIdent' onDecl' =
        (signature.collect onIdent onDecl).map carry
  | ⟨params, results⟩ => by
      have paramsCarried := FieldList.collect_rebuild params
      have resultsCarried := FieldList.collect_rebuildOptional results
      cases results <;> exact carried_append paramsCarried resultsCarried

theorem Spec.collectAll_rebuild :
    (specs : List Spec) →
      Spec.collectAll onIdent' onDecl' (Spec.rebuildAll change (fun _ => none) specs) =
        (Spec.collectAll onIdent onDecl specs).map carry
  | [] => rfl
  | .imported ⟨_, name, _, _⟩ :: rest => by
      have restCarried := Spec.collectAll_rebuild rest
      cases name with
      | none => exact restCarried
      | some name => exact carried_append (transfers.ident name) restCarried
  | .value ⟨_, names, type, values, _⟩ :: rest => by
      have typeCarried := Expr.collect_rebuildOptional type
      have valuesCarried := Expr.collectAll_rebuild values
      have restCarried := Spec.collectAll_rebuild rest
      cases type <;>
        exact carried_append (carried_append (carried_append (transfers.names names) typeCarried)
          valuesCarried) restCarried
  | .type ⟨_, name, _, type, _⟩ :: rest =>
      carried_append (carried_append (transfers.ident name) (Expr.collect_rebuild type))
        (Spec.collectAll_rebuild rest)

theorem GenDecl.collect_rebuild :
    (decl : GenDecl) → (decl.rebuild change fun _ => none).collect onIdent' onDecl' =
      (decl.collect onIdent onDecl).map carry
  | ⟨doc, keyword, grouped, specs, offset⟩ => by
      have taken := transfers.decl ⟨doc, keyword, grouped, specs, offset⟩
      have specsCarried := Spec.collectAll_rebuild specs
      simp only [GenDecl.rebuild] at taken ⊢
      simp only [GenDecl.collect, taken]
      cases onDecl ⟨doc, keyword, grouped, specs, offset⟩ with
      | none => exact specsCarried
      | some found => rfl

theorem Block.collect_rebuild :
    (block : Block) → (block.rebuild change fun _ => none).collect onIdent' onDecl' =
        (block.collect onIdent onDecl).map carry
  | ⟨stmts, _⟩ => Stmt.collectAll_rebuild stmts

theorem Block.collect_rebuildOptional :
    (block : Option Block) →
      (block.map (·.rebuild change fun _ => none)).elim [] (·.collect onIdent' onDecl') =
        (block.elim [] (·.collect onIdent onDecl)).map carry
  | none => rfl
  | some block => Block.collect_rebuild block

theorem Stmt.collectAll_rebuild :
    (stmts : List Stmt) →
      Stmt.collectAll onIdent' onDecl' (Stmt.rebuildAll change (fun _ => none) stmts) =
        (Stmt.collectAll onIdent onDecl stmts).map carry
  | [] => rfl
  | stmt :: rest => carried_append (Stmt.collect_rebuild stmt) (Stmt.collectAll_rebuild rest)

theorem Stmt.collect_rebuild :
    (stmt : Stmt) → (stmt.rebuild change fun _ => none).collect onIdent' onDecl' =
        (stmt.collect onIdent onDecl).map carry
  | ⟨_, kind, _⟩ => StmtKind.collect_rebuild kind

theorem Stmt.collect_rebuildOptional :
    (stmt : Option Stmt) →
      (stmt.map (·.rebuild change fun _ => none)).elim [] (·.collect onIdent' onDecl') =
        (stmt.elim [] (·.collect onIdent onDecl)).map carry
  | none => rfl
  | some stmt => Stmt.collect_rebuild stmt

theorem StmtKind.collect_rebuild :
    (kind : StmtKind) → (kind.rebuild change fun _ => none).collect onIdent' onDecl' =
        (kind.collect onIdent onDecl).map carry
  | .decl decl => GenDecl.collect_rebuild decl
  | .empty => rfl
  | .labeled label stmt => carried_append (transfers.ident label) (Stmt.collect_rebuild stmt)
  | .expr expr => Expr.collect_rebuild expr
  | .send channel value =>
      carried_append (Expr.collect_rebuild channel) (Expr.collect_rebuild value)
  | .incDec operand _ => Expr.collect_rebuild operand
  | .assign targets _ values =>
      carried_append (Expr.collectAll_rebuild targets) (Expr.collectAll_rebuild values)
  | .go call | .defer call => Expr.collect_rebuild call
  | .ret results => Expr.collectAll_rebuild results
  | .branch _ label => by
      have labelCarried := transfers.optional label
      cases label <;> exact labelCarried
  | .block block => Block.collect_rebuild block
  | .conditional init condition body alternative => by
      have initCarried := Stmt.collect_rebuildOptional init
      have conditionCarried := Expr.collect_rebuild condition
      have bodyCarried := Block.collect_rebuild body
      have alternativeCarried := Stmt.collect_rebuildOptional alternative
      cases init <;> cases alternative <;>
        exact carried_append (carried_append (carried_append initCarried conditionCarried)
          bodyCarried) alternativeCarried
  | .switch init tag clauses => by
      have initCarried := Stmt.collect_rebuildOptional init
      have tagCarried := Expr.collect_rebuildOptional tag
      have clausesCarried := CaseClause.collectAll_rebuild clauses
      cases init <;> cases tag <;>
        exact carried_append (carried_append initCarried tagCarried) clausesCarried
  | .typeSwitch init binding subject clauses => by
      have initCarried := Stmt.collect_rebuildOptional init
      have bindingCarried := transfers.optional binding
      have subjectCarried := Expr.collect_rebuild subject
      have clausesCarried := CaseClause.collectAll_rebuild clauses
      cases init <;> cases binding <;>
        exact carried_append (carried_append (carried_append initCarried bindingCarried)
          subjectCarried) clausesCarried
  | .select clauses => CommClause.collectAll_rebuild clauses
  | .loop init condition post body => by
      have initCarried := Stmt.collect_rebuildOptional init
      have conditionCarried := Expr.collect_rebuildOptional condition
      have postCarried := Stmt.collect_rebuildOptional post
      have bodyCarried := Block.collect_rebuild body
      cases init <;> cases condition <;> cases post <;>
        exact carried_append (carried_append (carried_append initCarried conditionCarried)
          postCarried) bodyCarried
  | .range key value _ subject body => by
      have keyCarried := Expr.collect_rebuildOptional key
      have valueCarried := Expr.collect_rebuildOptional value
      have subjectCarried := Expr.collect_rebuild subject
      have bodyCarried := Block.collect_rebuild body
      cases key <;> cases value <;>
        exact carried_append (carried_append (carried_append keyCarried valueCarried)
          subjectCarried) bodyCarried

theorem CaseClause.collectAll_rebuild :
    (clauses : List CaseClause) →
      CaseClause.collectAll onIdent' onDecl'
          (CaseClause.rebuildAll change (fun _ => none) clauses) =
        (CaseClause.collectAll onIdent onDecl clauses).map carry
  | [] => rfl
  | ⟨_, list, body⟩ :: rest => by
      have bodyCarried := Stmt.collectAll_rebuild body
      have restCarried := CaseClause.collectAll_rebuild rest
      cases list with
      | none => exact carried_append bodyCarried restCarried
      | some list =>
          exact carried_append (carried_append (Expr.collectAll_rebuild list) bodyCarried)
            restCarried

theorem CommClause.collectAll_rebuild :
    (clauses : List CommClause) →
      CommClause.collectAll onIdent' onDecl'
          (CommClause.rebuildAll change (fun _ => none) clauses) =
        (CommClause.collectAll onIdent onDecl clauses).map carry
  | [] => rfl
  | ⟨_, comm, body⟩ :: rest => by
      have commCarried := Stmt.collect_rebuildOptional comm
      have bodyCarried := Stmt.collectAll_rebuild body
      have restCarried := CommClause.collectAll_rebuild rest
      cases comm <;> exact carried_append (carried_append commCarried bodyCarried) restCarried

end

theorem FuncDecl.collect_rebuild (decl : FuncDecl) :
    (decl.rebuild change fun _ => none).collect onIdent' onDecl' =
      (decl.collect onIdent onDecl).map carry := by
  obtain ⟨_, receiver, name, signature, body⟩ := decl
  have receiverCarried := FieldList.collect_rebuildOptional transfers receiver
  have signatureCarried := Signature.collect_rebuild transfers signature
  have bodyCarried := Block.collect_rebuildOptional transfers body
  cases receiver <;> cases body <;>
    exact carried_append (carried_append (carried_append receiverCarried (transfers.ident name))
      signatureCarried) bodyCarried

theorem Decl.collect_rebuild (decl : Decl) :
    (decl.rebuild change fun _ => none).collect onIdent' onDecl' =
      (decl.collect onIdent onDecl).map carry := by
  cases decl with
  | gen decl => exact GenDecl.collect_rebuild transfers decl
  | func decl => exact FuncDecl.collect_rebuild transfers decl

theorem File.collect_mapIdents (file : File) :
    (file.mapIdents change).collect onIdent' onDecl' = (file.collect onIdent onDecl).map carry := by
  refine carried_append (transfers.ident file.package) ?_
  rw [File.mapIdents, File.rebuild, List.flatMap_map, List.map_flatMap]
  exact congrArg file.decls.flatMap (funext (Decl.collect_rebuild transfers))

end

theorem Decl.idents_rebuild (change : Ident → Ident) (decl : Decl) :
    (decl.rebuild change fun _ => none).idents = decl.idents.map change :=
  Decl.collect_rebuild (transfers_idents change) decl

/-- Replacing the names of a file changes each occurrence and nothing else. -/
theorem File.idents_mapIdents (change : Ident → Ident) (file : File) :
    (file.mapIdents change).idents = file.idents.map change :=
  File.collect_mapIdents (transfers_idents change) file

/-! ## Equations of the collecting walk -/

section

universe u

variable {α : Type u} {onIdent : Ident → List α} {onDecl : GenDecl → Option (List α)}

theorem Expr.collect_ident (name : Ident) :
    (Expr.ident name).collect onIdent onDecl = onIdent name :=
  rfl

theorem Expr.collect_composite (type : Option Expr) (elements : List Expr) (multiline : Bool) :
    (Expr.composite type elements multiline).collect onIdent onDecl =
      type.elim [] (·.collect onIdent onDecl) ++ Expr.collectAll onIdent onDecl elements := by
  cases type <;> rfl

theorem Expr.collect_selector (base : Expr) (name : Ident) :
    (Expr.selector base name).collect onIdent onDecl =
      base.collect onIdent onDecl ++ onIdent name :=
  rfl

theorem Expr.collect_index (base position : Expr) :
    (Expr.index base position).collect onIdent onDecl =
      base.collect onIdent onDecl ++ position.collect onIdent onDecl :=
  rfl

theorem Expr.collect_slice (base : Expr) (low high max : Option Expr) :
    (Expr.slice base low high max).collect onIdent onDecl =
      base.collect onIdent onDecl ++ low.elim [] (·.collect onIdent onDecl) ++
        high.elim [] (·.collect onIdent onDecl) ++ max.elim [] (·.collect onIdent onDecl) := by
  cases low <;> cases high <;> cases max <;> rfl

theorem Expr.collect_assertion (base : Expr) (type : Option Expr) :
    (Expr.assertion base type).collect onIdent onDecl =
      base.collect onIdent onDecl ++ type.elim [] (·.collect onIdent onDecl) := by
  cases type <;> rfl

theorem StmtKind.collect_expr (expr : Expr) :
    (StmtKind.expr expr).collect onIdent onDecl = expr.collect onIdent onDecl :=
  rfl

theorem StmtKind.collect_select (clauses : List CommClause) :
    (StmtKind.select clauses).collect onIdent onDecl =
      CommClause.collectAll onIdent onDecl clauses :=
  rfl

theorem StmtKind.collect_assign (targets : List Expr) (op : AssignOp) (values : List Expr) :
    (StmtKind.assign targets op values).collect onIdent onDecl =
      Expr.collectAll onIdent onDecl targets ++ Expr.collectAll onIdent onDecl values :=
  rfl

theorem StmtKind.collect_conditional (init alternative : Option Stmt) (condition : Expr)
    (body : Block) :
    (StmtKind.conditional init condition body alternative).collect onIdent onDecl =
      init.elim [] (·.collect onIdent onDecl) ++ condition.collect onIdent onDecl ++
        body.collect onIdent onDecl ++ alternative.elim [] (·.collect onIdent onDecl) := by
  cases init <;> cases alternative <;> rfl

theorem StmtKind.collect_switch (init : Option Stmt) (tag : Option Expr)
    (clauses : List CaseClause) :
    (StmtKind.switch init tag clauses).collect onIdent onDecl =
      init.elim [] (·.collect onIdent onDecl) ++ tag.elim [] (·.collect onIdent onDecl) ++
        CaseClause.collectAll onIdent onDecl clauses := by
  cases init <;> cases tag <;> rfl

theorem StmtKind.collect_typeSwitch (init : Option Stmt) (binding : Option Ident)
    (subject : Expr) (clauses : List CaseClause) :
    (StmtKind.typeSwitch init binding subject clauses).collect onIdent onDecl =
      init.elim [] (·.collect onIdent onDecl) ++ binding.elim [] onIdent ++
        subject.collect onIdent onDecl ++ CaseClause.collectAll onIdent onDecl clauses := by
  cases init <;> cases binding <;> rfl

theorem StmtKind.collect_loop (init post : Option Stmt) (condition : Option Expr)
    (body : Block) :
    (StmtKind.loop init condition post body).collect onIdent onDecl =
      init.elim [] (·.collect onIdent onDecl) ++ condition.elim [] (·.collect onIdent onDecl) ++
        post.elim [] (·.collect onIdent onDecl) ++ body.collect onIdent onDecl := by
  cases init <;> cases condition <;> cases post <;> rfl

theorem StmtKind.collect_range (key value : Option Expr) (define : Bool) (subject : Expr)
    (body : Block) :
    (StmtKind.range key value define subject body).collect onIdent onDecl =
      key.elim [] (·.collect onIdent onDecl) ++ value.elim [] (·.collect onIdent onDecl) ++
        subject.collect onIdent onDecl ++ body.collect onIdent onDecl := by
  cases key <;> cases value <;> rfl

theorem CommClause.collectAll_cons (doc : List Comment) (comm : Option Stmt) (body : List Stmt)
    (rest : List CommClause) :
    CommClause.collectAll onIdent onDecl (⟨doc, comm, body⟩ :: rest) =
      comm.elim [] (·.collect onIdent onDecl) ++ Stmt.collectAll onIdent onDecl body ++
        CommClause.collectAll onIdent onDecl rest := by
  cases comm <;> rfl

end

/-! ## Equations of the rebuilding walk -/

section

variable (change : Ident → Ident) (edit : TypeSpec → Option TypeSpec)

theorem StmtKind.rebuild_assign (targets : List Expr) (op : AssignOp) (values : List Expr) :
    (StmtKind.assign targets op values).rebuild change edit =
      .assign (Expr.rebuildAll change edit targets) op (Expr.rebuildAll change edit values) :=
  rfl

theorem StmtKind.rebuild_conditional (init alternative : Option Stmt) (condition : Expr)
    (body : Block) :
    (StmtKind.conditional init condition body alternative).rebuild change edit =
      .conditional (init.map (·.rebuild change edit))
        (condition.rebuild change edit) (body.rebuild change edit)
        (alternative.map (·.rebuild change edit)) := by
  cases init <;> cases alternative <;> rfl

theorem StmtKind.rebuild_switch (init : Option Stmt) (tag : Option Expr)
    (clauses : List CaseClause) :
    (StmtKind.switch init tag clauses).rebuild change edit =
      .switch (init.map (·.rebuild change edit))
        (tag.map (·.rebuild change edit))
        (CaseClause.rebuildAll change edit clauses) := by
  cases init <;> cases tag <;> rfl

theorem StmtKind.rebuild_typeSwitch (init : Option Stmt) (binding : Option Ident)
    (subject : Expr) (clauses : List CaseClause) :
    (StmtKind.typeSwitch init binding subject clauses).rebuild change edit =
      .typeSwitch (init.map (·.rebuild change edit)) (binding.map change)
        (subject.rebuild change edit)
        (CaseClause.rebuildAll change edit clauses) := by
  cases init <;> rfl

theorem StmtKind.rebuild_loop (init post : Option Stmt) (condition : Option Expr)
    (body : Block) :
    (StmtKind.loop init condition post body).rebuild change edit =
      .loop (init.map (·.rebuild change edit))
        (condition.map (·.rebuild change edit))
        (post.map (·.rebuild change edit)) (body.rebuild change edit) := by
  cases init <;> cases condition <;> cases post <;> rfl

theorem StmtKind.rebuild_range (key value : Option Expr) (define : Bool) (subject : Expr)
    (body : Block) :
    (StmtKind.range key value define subject body).rebuild change edit =
      .range (key.map (·.rebuild change edit))
        (value.map (·.rebuild change edit)) define
        (subject.rebuild change edit) (body.rebuild change edit) := by
  cases key <;> cases value <;> rfl

theorem Spec.rebuildAll_eq_map (specs : List Spec) :
    Spec.rebuildAll change edit specs =
      specs.map (·.rebuild change edit) := by
  induction specs with
  | nil => rfl
  | cons spec rest ih => rw [rebuildAll, ih, List.map_cons]

theorem Spec.rebuild_type (spec : TypeSpec) :
    (Spec.type spec).rebuild change edit =
      .type ((edit spec).getD (spec.rebuild change edit)) := by
  cases edited : edit spec with
  | none => simp [Spec.rebuild, edited]
  | some replacement => simp [Spec.rebuild, edited]

theorem CommClause.rebuildAll_cons (doc : List Comment) (comm : Option Stmt) (body : List Stmt)
    (rest : List CommClause) :
    CommClause.rebuildAll change edit (⟨doc, comm, body⟩ :: rest) =
      ⟨doc, comm.map (·.rebuild change edit),
        Stmt.rebuildAll change edit body⟩ ::
        CommClause.rebuildAll change edit rest := by
  cases comm <;> rfl

end

/-! ## The identity -/

mutual

theorem Expr.rebuild_id : (expr : Expr) → (expr.rebuild id fun _ => none) = expr
  | .ident _ | .literal _ => rfl
  | .composite type elements multiline => by
      have typeSame := Expr.rebuildOptional_id type
      have elementsSame := Expr.rebuildAll_id elements
      cases type <;>
        exact (congrFun (congr (congrArg Expr.composite typeSame) elementsSame) multiline :)
  | .function signature body =>
      (congr (congrArg Expr.function (Signature.rebuild_id signature)) (Block.rebuild_id body) :)
  | .paren inner => congrArg Expr.paren (Expr.rebuild_id inner)
  | .selector base name => congrArg (Expr.selector · name) (Expr.rebuild_id base)
  | .index base position =>
      (congr (congrArg Expr.index (Expr.rebuild_id base)) (Expr.rebuild_id position) :)
  | .slice base low high max => by
      have baseSame := Expr.rebuild_id base
      have lowSame := Expr.rebuildOptional_id low
      have highSame := Expr.rebuildOptional_id high
      have maxSame := Expr.rebuildOptional_id max
      cases low <;> cases high <;> cases max <;>
        exact (congr (congr (congr (congrArg Expr.slice baseSame) lowSame) highSame) maxSame :)
  | .assertion base type => by
      have baseSame := Expr.rebuild_id base
      have typeSame := Expr.rebuildOptional_id type
      cases type <;> exact (congr (congrArg Expr.assertion baseSame) typeSame :)
  | .call callee arguments spread =>
      (congrFun (congr (congrArg Expr.call (Expr.rebuild_id callee))
        (Expr.rebuildAll_id arguments)) spread :)
  | .star inner => congrArg Expr.star (Expr.rebuild_id inner)
  | .unary op operand => congrArg (Expr.unary op) (Expr.rebuild_id operand)
  | .binary left op right =>
      (congr (congrArg (Expr.binary · op) (Expr.rebuild_id left)) (Expr.rebuild_id right) :)
  | .keyValue key value =>
      (congr (congrArg Expr.keyValue (Expr.rebuild_id key)) (Expr.rebuild_id value) :)
  | .arrayType length element =>
      (congr (congrArg Expr.arrayType (ArrayLength.rebuild_id length)) (Expr.rebuild_id element) :)
  | .mapType key value =>
      (congr (congrArg Expr.mapType (Expr.rebuild_id key)) (Expr.rebuild_id value) :)
  | .chanType direction element =>
      congrArg (Expr.chanType direction) (Expr.rebuild_id element)
  | .funcType signature => congrArg Expr.funcType (Signature.rebuild_id signature)
  | .structType fields => congrArg Expr.structType (FieldList.rebuild_id fields)
  | .interfaceType methods => congrArg Expr.interfaceType (FieldList.rebuild_id methods)
  | .variadic element => congrArg Expr.variadic (Expr.rebuild_id element)

theorem Expr.rebuildOptional_id :
    (expr : Option Expr) → expr.map (·.rebuild id fun _ => none) = expr
  | none => rfl
  | some expr => congrArg some (Expr.rebuild_id expr)

theorem Expr.rebuildAll_id :
    (exprs : List Expr) → Expr.rebuildAll id (fun _ => none) exprs = exprs
  | [] => rfl
  | expr :: rest => (congr (congrArg List.cons (Expr.rebuild_id expr)) (Expr.rebuildAll_id rest) :)

theorem ArrayLength.rebuild_id :
    (length : ArrayLength) → (length.rebuild id fun _ => none) = length
  | .slice | .inferred => rfl
  | .fixed size => congrArg ArrayLength.fixed (Expr.rebuild_id size)

theorem Field.rebuildAll_id :
    (fields : List Field) → Field.rebuildAll id (fun _ => none) fields = fields
  | [] => rfl
  | ⟨doc, names, type, tag, comment⟩ :: rest =>
      (congr (congr (congrArg (fun names type => List.cons (Field.mk doc names type tag comment))
        (List.map_id names)) (Expr.rebuild_id type)) (Field.rebuildAll_id rest) :)

theorem FieldList.rebuild_id :
    (list : FieldList) → (list.rebuild id fun _ => none) = list
  | ⟨fields, closing⟩ => congrArg (FieldList.mk · closing) (Field.rebuildAll_id fields)

theorem FieldList.rebuildOptional_id :
    (list : Option FieldList) → list.map (·.rebuild id fun _ => none) = list
  | none => rfl
  | some list => congrArg some (FieldList.rebuild_id list)

theorem Signature.rebuild_id :
    (signature : Signature) → (signature.rebuild id fun _ => none) = signature
  | ⟨params, results⟩ => by
      have paramsSame := FieldList.rebuild_id params
      have resultsSame := FieldList.rebuildOptional_id results
      cases results <;> exact (congr (congrArg Signature.mk paramsSame) resultsSame :)

theorem Spec.rebuildAll_id :
    (specs : List Spec) → Spec.rebuildAll id (fun _ => none) specs = specs
  | [] => rfl
  | .imported ⟨_, name, _, _⟩ :: rest => by
      have restSame := Spec.rebuildAll_id rest
      cases name <;> exact congrArg (List.cons _) restSame
  | .value ⟨doc, names, type, values, comment⟩ :: rest => by
      have namesSame : names.map id = names := List.map_id names
      have typeSame := Expr.rebuildOptional_id type
      have valuesSame := Expr.rebuildAll_id values
      have restSame := Spec.rebuildAll_id rest
      cases type <;>
        exact (congr (congrArg (List.cons <| Spec.value ·) <|
          congr (congr (congrArg (ValueSpec.mk doc · · · comment) namesSame) typeSame) valuesSame)
          restSame :)
  | .type ⟨doc, name, isAlias, type, comment⟩ :: rest =>
      (congr (congrArg (List.cons <| Spec.type <| TypeSpec.mk doc name isAlias · comment)
        (Expr.rebuild_id type)) (Spec.rebuildAll_id rest) :)

theorem GenDecl.rebuild_id :
    (decl : GenDecl) → (decl.rebuild id fun _ => none) = decl
  | ⟨doc, keyword, grouped, specs, offset⟩ =>
      congrArg (GenDecl.mk doc keyword grouped · offset) (Spec.rebuildAll_id specs)

theorem Block.rebuild_id :
    (block : Block) → (block.rebuild id fun _ => none) = block
  | ⟨stmts, closing⟩ => congrArg (Block.mk · closing) (Stmt.rebuildAll_id stmts)

theorem Block.rebuildOptional_id :
    (block : Option Block) → block.map (·.rebuild id fun _ => none) = block
  | none => rfl
  | some block => congrArg some (Block.rebuild_id block)

theorem Stmt.rebuildAll_id :
    (stmts : List Stmt) → Stmt.rebuildAll id (fun _ => none) stmts = stmts
  | [] => rfl
  | stmt :: rest => (congr (congrArg List.cons (Stmt.rebuild_id stmt)) (Stmt.rebuildAll_id rest) :)

theorem Stmt.rebuild_id : (stmt : Stmt) → (stmt.rebuild id fun _ => none) = stmt
  | ⟨doc, kind, comment⟩ => congrArg (Stmt.mk doc · comment) (StmtKind.rebuild_id kind)

theorem Stmt.rebuildOptional_id :
    (stmt : Option Stmt) → stmt.map (·.rebuild id fun _ => none) = stmt
  | none => rfl
  | some stmt => congrArg some (Stmt.rebuild_id stmt)

theorem StmtKind.rebuild_id : (kind : StmtKind) → (kind.rebuild id fun _ => none) = kind
  | .decl decl => congrArg StmtKind.decl (GenDecl.rebuild_id decl)
  | .empty => rfl
  | .labeled label stmt => congrArg (StmtKind.labeled label) (Stmt.rebuild_id stmt)
  | .expr expr => congrArg StmtKind.expr (Expr.rebuild_id expr)
  | .send channel value =>
      (congr (congrArg StmtKind.send (Expr.rebuild_id channel)) (Expr.rebuild_id value) :)
  | .incDec operand increment =>
      congrArg (StmtKind.incDec · increment) (Expr.rebuild_id operand)
  | .assign targets op values =>
      (congr (congrArg (StmtKind.assign · op) (Expr.rebuildAll_id targets))
        (Expr.rebuildAll_id values) :)
  | .go call => congrArg StmtKind.go (Expr.rebuild_id call)
  | .defer call => congrArg StmtKind.defer (Expr.rebuild_id call)
  | .ret results => congrArg StmtKind.ret (Expr.rebuildAll_id results)
  | .branch _ label => by cases label <;> rfl
  | .block block => congrArg StmtKind.block (Block.rebuild_id block)
  | .conditional init condition body alternative => by
      have initSame := Stmt.rebuildOptional_id init
      have conditionSame := Expr.rebuild_id condition
      have bodySame := Block.rebuild_id body
      have alternativeSame := Stmt.rebuildOptional_id alternative
      cases init <;> cases alternative <;>
        exact (congr (congr (congr (congrArg StmtKind.conditional initSame) conditionSame)
          bodySame) alternativeSame :)
  | .switch init tag clauses => by
      have initSame := Stmt.rebuildOptional_id init
      have tagSame := Expr.rebuildOptional_id tag
      have clausesSame := CaseClause.rebuildAll_id clauses
      cases init <;> cases tag <;>
        exact (congr (congr (congrArg StmtKind.switch initSame) tagSame) clausesSame :)
  | .typeSwitch init binding subject clauses => by
      have initSame := Stmt.rebuildOptional_id init
      have bindingSame : binding.map id = binding := Option.map_id_apply
      have subjectSame := Expr.rebuild_id subject
      have clausesSame := CaseClause.rebuildAll_id clauses
      cases init <;>
        exact (congr (congr (congr (congrArg StmtKind.typeSwitch initSame) bindingSame)
          subjectSame) clausesSame :)
  | .select clauses => congrArg StmtKind.select (CommClause.rebuildAll_id clauses)
  | .loop init condition post body => by
      have initSame := Stmt.rebuildOptional_id init
      have conditionSame := Expr.rebuildOptional_id condition
      have postSame := Stmt.rebuildOptional_id post
      have bodySame := Block.rebuild_id body
      cases init <;> cases condition <;> cases post <;>
        exact (congr (congr (congr (congrArg StmtKind.loop initSame) conditionSame) postSame)
          bodySame :)
  | .range key value define subject body => by
      have keySame := Expr.rebuildOptional_id key
      have valueSame := Expr.rebuildOptional_id value
      have subjectSame := Expr.rebuild_id subject
      have bodySame := Block.rebuild_id body
      cases key <;> cases value <;>
        exact (congr (congr (congr (congrArg (StmtKind.range · · define) keySame) valueSame)
          subjectSame) bodySame :)

theorem CaseClause.rebuildAll_id :
    (clauses : List CaseClause) → CaseClause.rebuildAll id (fun _ => none) clauses = clauses
  | [] => rfl
  | ⟨doc, none, body⟩ :: rest =>
      (congr (congrArg (List.cons <| CaseClause.mk doc none ·) (Stmt.rebuildAll_id body))
        (CaseClause.rebuildAll_id rest) :)
  | ⟨doc, some list, body⟩ :: rest =>
      (congr (congr (congrArg (fun list body => List.cons (CaseClause.mk doc (some list) body))
        (Expr.rebuildAll_id list)) (Stmt.rebuildAll_id body)) (CaseClause.rebuildAll_id rest) :)

theorem CommClause.rebuildAll_id :
    (clauses : List CommClause) → CommClause.rebuildAll id (fun _ => none) clauses = clauses
  | [] => rfl
  | ⟨doc, comm, body⟩ :: rest => by
      have commSame := Stmt.rebuildOptional_id comm
      have bodySame := Stmt.rebuildAll_id body
      have restSame := CommClause.rebuildAll_id rest
      cases comm <;>
        exact (congr (congr (congrArg (List.cons <| CommClause.mk doc · ·) commSame) bodySame)
          restSame :)

end

theorem FuncDecl.rebuild_id (decl : FuncDecl) : (decl.rebuild id fun _ => none) = decl := by
  obtain ⟨_, receiver, _, signature, body⟩ := decl
  rw [FuncDecl.rebuild, FieldList.rebuildOptional_id, Signature.rebuild_id,
    Block.rebuildOptional_id, id]

theorem Decl.rebuild_id : (decl : Decl) → (decl.rebuild id fun _ => none) = decl
  | .gen decl => congrArg Decl.gen (GenDecl.rebuild_id decl)
  | .func decl => congrArg Decl.func (FuncDecl.rebuild_id decl)

/-- Replacing every name by itself changes nothing. -/
theorem File.mapIdents_id (file : File) : file.mapIdents id = file := by
  have declsSame : file.decls.map (·.rebuild id fun _ => none) = file.decls :=
    List.map_id'' Decl.rebuild_id file.decls
  rw [mapIdents, rebuild, declsSame, id]

end GoMend
