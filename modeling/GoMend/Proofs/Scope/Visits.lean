import GoMend.Scope.Resolve

/-!
# Visits of a file

What resolution meets in a file, told without a stack of scopes.  The names that are
visible at a place are passed down the tree: an expression leaves them as they are, and a
statement says which names it adds for the statements behind it.
-/

namespace GoMend

/-- The local names that are visible at a place. -/
abbrev Env := List String

namespace Env

/-- A name becomes visible; the blank name never does. -/
def bind (env : Env) (ident : Ident) : Env :=
  if ident.isBlank then env else ident.name :: env

/-- Names become visible one after the other. -/
def bindAll (env : Env) (idents : List Ident) : Env :=
  idents.foldl bind env

/-- What a type name was declared as, unless a local name hides it. -/
def declaredType? (env : Env) (package : PackageScope) (name : String) : Option Expr :=
  if env.contains name then none else package.declaredType? name

/-- The shape of a literal by its own type, or by the hint if it has none. -/
def shape (env : Env) (package : PackageScope) (type hint : Option Expr) : Shape :=
  match type.or hint with
  | some type => Shape.ofType (env.declaredType? package) Shape.maxSteps type
  | none => .unknown

end Env

/-- What resolution meets: the use of a name among visible ones, or a place that declares
a local name. -/
inductive Visit where
  | use (ident : Ident) (env : Env)
  | binder (ident : Ident)

namespace Visit

/-- The occurrence that is met. -/
def ident : Visit → Ident
  | use ident _ => ident
  | binder ident => ident

/-- The report of a use whose name is declared nowhere. -/
def unresolved? (names : FileNames) : Visit → Option Unresolved
  | use ident env =>
      if ident.isBlank || env.contains ident.headName || names.contains ident.headName then
        none
      else some { name := ident.headName, offset := ident.offset }
  | binder _ => none

end Visit

/-! ## Names that parts of a tree add -/

/-- The names of the fields of a list. -/
def FieldList.names (list : FieldList) : List Ident :=
  list.fields.flatMap (·.names)

/-- The names of parameters and results. -/
def Signature.names (signature : Signature) : List Ident :=
  signature.params.names ++ signature.results.elim [] FieldList.names

/-- The names that an entry declares. -/
def Spec.binds : Spec → List Ident
  | .imported _ => []
  | .value spec => spec.names
  | .type spec => [spec.name]

/-- The names that a short declaration declares. -/
def Expr.bindsAll (targets : List Expr) : List Ident :=
  targets.filterMap Expr.ident?

mutual

/-- The names that a statement adds for the statements behind it. -/
def Stmt.binds : Stmt → List Ident
  | ⟨_, kind, _⟩ => kind.binds
termination_by structural stmt => stmt

/-- The names that a statement without its comments adds. -/
def StmtKind.binds : StmtKind → List Ident
  | .decl decl => decl.specs.flatMap Spec.binds
  | .labeled _ stmt => stmt.binds
  | .assign targets op _ => if op = .define then Expr.bindsAll targets else []
  | _ => []
termination_by structural kind => kind

end

/-- The names that an optional statement adds. -/
def Stmt.bindsOf (stmt : Option Stmt) : List Ident :=
  stmt.elim [] Stmt.binds

/-- The name that a range clause declares by a variable. -/
def Expr.rangeBinds (define : Bool) (target : Option Expr) : List Ident :=
  if define then (target.bind Expr.ident?).toList else []

/-! ## Visits in document order -/

mutual

/-- The visits in an expression or a type.  The hint is the type that a composite literal
without a type of its own stands for. -/
def Expr.visits (package : PackageScope) (hint : Option Expr) (env : Env) : Expr → List Visit
  | .ident name => [.use name env]
  | .literal _ => []
  | .composite type elements _ =>
      (match type with
        | some type => type.visits package none env
        | none => []) ++
      Expr.visitsElements package (env.shape package type hint) env elements
  | .function signature body =>
      signature.visits package env ++ signature.names.map .binder ++
        body.visits package (env.bindAll signature.names)
  | .paren inner => inner.visits package none env
  | .selector base _ => base.visits package none env
  | .index base position =>
      base.visits package none env ++ position.visits package none env
  | .slice base low high max =>
      base.visits package none env ++
      (match low with
        | some low => low.visits package none env
        | none => []) ++
      (match high with
        | some high => high.visits package none env
        | none => []) ++
      (match max with
        | some max => max.visits package none env
        | none => [])
  | .assertion base type =>
      base.visits package none env ++
      (match type with
        | some type => type.visits package none env
        | none => [])
  | .call callee arguments _ =>
      callee.visits package none env ++ Expr.visitsAll package env arguments
  | .star inner => inner.visits package none env
  | .unary _ operand => operand.visits package none env
  | .binary left _ right => left.visits package none env ++ right.visits package none env
  | .keyValue key value => key.visits package none env ++ value.visits package none env
  | .arrayType length element =>
      length.visits package env ++ element.visits package none env
  | .mapType key value => key.visits package none env ++ value.visits package none env
  | .chanType _ element => element.visits package none env
  | .funcType signature => signature.visits package env
  | .structType fields => fields.visits package env
  | .interfaceType methods => methods.visits package env
  | .variadic element => element.visits package none env
termination_by structural expr => expr

/-- The visits in expressions, in order. -/
def Expr.visitsAll (package : PackageScope) (env : Env) : List Expr → List Visit
  | [] => []
  | expr :: rest => expr.visits package none env ++ Expr.visitsAll package env rest
termination_by structural exprs => exprs

/-- The visits in the elements of a composite literal of the given shape. -/
def Expr.visitsElements (package : PackageScope) (shape : Shape) (env : Env) :
    List Expr → List Visit
  | [] => []
  | .keyValue key value :: rest =>
      (if shape.resolvesKey key then key.visits package shape.key? env else []) ++
        value.visits package shape.element? env ++
        Expr.visitsElements package shape env rest
  | element :: rest =>
      element.visits package shape.element? env ++
        Expr.visitsElements package shape env rest
termination_by structural exprs => exprs

/-- The visits in the targets of a short declaration. -/
def Expr.visitsTargets (package : PackageScope) (env : Env) : List Expr → List Visit
  | [] => []
  | .ident name :: rest => .binder name :: Expr.visitsTargets package (env.bind name) rest
  | target :: rest =>
      target.visits package none env ++ Expr.visitsTargets package env rest
termination_by structural exprs => exprs

/-- The visits in the length of an array type. -/
def ArrayLength.visits (package : PackageScope) (env : Env) : ArrayLength → List Visit
  | .slice => []
  | .inferred => []
  | .fixed size => size.visits package none env
termination_by structural length => length

/-- The visits in the types of fields. -/
def Field.visitsAll (package : PackageScope) (env : Env) : List Field → List Visit
  | [] => []
  | ⟨_, _, type, _, _⟩ :: rest =>
      type.visits package none env ++ Field.visitsAll package env rest
termination_by structural fields => fields

/-- The visits in the types of a bracketed list of fields. -/
def FieldList.visits (package : PackageScope) (env : Env) : FieldList → List Visit
  | ⟨fields, _⟩ => Field.visitsAll package env fields
termination_by structural list => list

/-- The visits in the types of parameters and results. -/
def Signature.visits (package : PackageScope) (env : Env) : Signature → List Visit
  | ⟨params, results⟩ =>
      params.visits package env ++
      (match results with
        | some results => results.visits package env
        | none => [])
termination_by structural signature => signature

/-- The visits in the entries of a declaration.  Inside a function a value is visible
behind its entry and a type already within it. -/
def Spec.visitsAll (package : PackageScope) (isLocal : Bool) (env : Env) :
    List Spec → List Visit
  | [] => []
  | .imported _ :: rest => Spec.visitsAll package isLocal env rest
  | .value ⟨_, idents, declared, values, _⟩ :: rest =>
      (match declared with
        | some declared => declared.visits package none env
        | none => []) ++
      Expr.visitsAll package env values ++
      (if isLocal then idents.map .binder else []) ++
      Spec.visitsAll package isLocal (if isLocal then env.bindAll idents else env) rest
  | .type ⟨_, name, _, declared, _⟩ :: rest =>
      (if isLocal then [.binder name] else []) ++
      declared.visits package none (if isLocal then env.bind name else env) ++
      Spec.visitsAll package isLocal (if isLocal then env.bind name else env) rest
termination_by structural specs => specs

/-- The visits in a declaration. -/
def GenDecl.visits (package : PackageScope) (isLocal : Bool) (env : Env) :
    GenDecl → List Visit
  | ⟨_, _, _, specs, _⟩ => Spec.visitsAll package isLocal env specs
termination_by structural decl => decl

/-- The visits in a block. -/
def Block.visits (package : PackageScope) (env : Env) : Block → List Visit
  | ⟨stmts, _⟩ => Stmt.visitsAll package env stmts
termination_by structural block => block

/-- The visits in statements, each of which sees the names of those before it. -/
def Stmt.visitsAll (package : PackageScope) (env : Env) : List Stmt → List Visit
  | [] => []
  | stmt :: rest =>
      stmt.visits package env ++ Stmt.visitsAll package (env.bindAll stmt.binds) rest
termination_by structural stmts => stmts

/-- The visits in a statement. -/
def Stmt.visits (package : PackageScope) (env : Env) : Stmt → List Visit
  | ⟨_, kind, _⟩ => kind.visits package env
termination_by structural stmt => stmt

/-- The visits in a statement without its comments. -/
def StmtKind.visits (package : PackageScope) (env : Env) : StmtKind → List Visit
  | .decl decl => decl.visits package true env
  | .empty => []
  | .branch _ _ => []
  | .labeled _ stmt => stmt.visits package env
  | .expr expr => expr.visits package none env
  | .go call => call.visits package none env
  | .defer call => call.visits package none env
  | .send channel value => channel.visits package none env ++ value.visits package none env
  | .incDec operand _ => operand.visits package none env
  | .assign targets op values =>
      if op = .define then
        Expr.visitsAll package env values ++ Expr.visitsTargets package env targets
      else Expr.visitsAll package env targets ++ Expr.visitsAll package env values
  | .ret results => Expr.visitsAll package env results
  | .block block => block.visits package env
  | .conditional init condition body alternative =>
      (match init with
        | some init => init.visits package env
        | none => []) ++
      condition.visits package none (env.bindAll (Stmt.bindsOf init)) ++
      body.visits package (env.bindAll (Stmt.bindsOf init)) ++
      (match alternative with
        | some alternative => alternative.visits package (env.bindAll (Stmt.bindsOf init))
        | none => [])
  | .switch init tag clauses =>
      (match init with
        | some init => init.visits package env
        | none => []) ++
      (match tag with
        | some tag => tag.visits package none (env.bindAll (Stmt.bindsOf init))
        | none => []) ++
      CaseClause.visitsAll package none (env.bindAll (Stmt.bindsOf init)) clauses
  | .typeSwitch init binding subject clauses =>
      (match init with
        | some init => init.visits package env
        | none => []) ++
      subject.visits package none (env.bindAll (Stmt.bindsOf init)) ++
      binding.toList.map .binder ++
      CaseClause.visitsAll package binding (env.bindAll (Stmt.bindsOf init)) clauses
  | .select clauses => CommClause.visitsAll package env clauses
  | .loop init condition post body =>
      (match init with
        | some init => init.visits package env
        | none => []) ++
      (match condition with
        | some condition => condition.visits package none (env.bindAll (Stmt.bindsOf init))
        | none => []) ++
      (match post with
        | some post => post.visits package (env.bindAll (Stmt.bindsOf init))
        | none => []) ++
      body.visits package ((env.bindAll (Stmt.bindsOf init)).bindAll (Stmt.bindsOf post))
  | .range key value define subject body =>
      subject.visits package none env ++
      (match key with
        | some (.ident name) => if define then [.binder name] else [.use name env]
        | some key => key.visits package none env
        | none => []) ++
      (match value with
        | some (.ident name) =>
            if define then [.binder name]
            else [.use name (env.bindAll (Expr.rangeBinds define key))]
        | some value => value.visits package none (env.bindAll (Expr.rangeBinds define key))
        | none => []) ++
      body.visits package
        ((env.bindAll (Expr.rangeBinds define key)).bindAll (Expr.rangeBinds define value))
termination_by structural kind => kind

/-- The visits in the clauses of a switch.  The binding of a type switch is visible in the
bodies alone. -/
def CaseClause.visitsAll (package : PackageScope) (binding : Option Ident) (env : Env) :
    List CaseClause → List Visit
  | [] => []
  | ⟨_, list, body⟩ :: rest =>
      (match list with
        | some list => Expr.visitsAll package env list
        | none => []) ++
      Stmt.visitsAll package (env.bindAll binding.toList) body ++
      CaseClause.visitsAll package binding env rest
termination_by structural clauses => clauses

/-- The visits in the clauses of a select statement. -/
def CommClause.visitsAll (package : PackageScope) (env : Env) : List CommClause → List Visit
  | [] => []
  | ⟨_, comm, body⟩ :: rest =>
      (match comm with
        | some comm => comm.visits package env
        | none => []) ++
      Stmt.visitsAll package (env.bindAll (Stmt.bindsOf comm)) body ++
      CommClause.visitsAll package env rest
termination_by structural clauses => clauses

end

/-- The visits in a variable of a range clause. -/
def Expr.rangeVisits (package : PackageScope) (define : Bool) (env : Env) :
    Option Expr → List Visit
  | some (.ident name) => if define then [.binder name] else [.use name env]
  | some expr => expr.visits package none env
  | none => []

/-! ## Equations for optional parts -/

section

variable {package : PackageScope} {env : Env}

theorem Expr.visits_slice {hint : Option Expr} {base : Expr} {low high max : Option Expr} :
    (Expr.slice base low high max).visits package hint env =
      base.visits package none env ++ low.elim [] (·.visits package none env) ++
        high.elim [] (·.visits package none env) ++ max.elim [] (·.visits package none env) := by
  cases low <;> cases high <;> cases max <;> rfl

theorem StmtKind.visits_assign {targets : List Expr} {op : AssignOp} {values : List Expr} :
    (StmtKind.assign targets op values).visits package env =
      if op = .define then
        Expr.visitsAll package env values ++ Expr.visitsTargets package env targets
      else Expr.visitsAll package env targets ++ Expr.visitsAll package env values :=
  rfl

theorem StmtKind.visits_conditional {init alternative : Option Stmt} {condition : Expr}
    {body : Block} :
    (StmtKind.conditional init condition body alternative).visits package env =
      init.elim [] (·.visits package env) ++
        condition.visits package none (env.bindAll (Stmt.bindsOf init)) ++
        body.visits package (env.bindAll (Stmt.bindsOf init)) ++
        alternative.elim [] (·.visits package (env.bindAll (Stmt.bindsOf init))) := by
  cases init <;> cases alternative <;> rfl

theorem StmtKind.visits_switch {init : Option Stmt} {tag : Option Expr}
    {clauses : List CaseClause} :
    (StmtKind.switch init tag clauses).visits package env =
      init.elim [] (·.visits package env) ++
        tag.elim [] (·.visits package none (env.bindAll (Stmt.bindsOf init))) ++
        CaseClause.visitsAll package none (env.bindAll (Stmt.bindsOf init)) clauses := by
  cases init <;> cases tag <;> rfl

theorem StmtKind.visits_typeSwitch {init : Option Stmt} {binding : Option Ident}
    {subject : Expr} {clauses : List CaseClause} :
    (StmtKind.typeSwitch init binding subject clauses).visits package env =
      init.elim [] (·.visits package env) ++
        subject.visits package none (env.bindAll (Stmt.bindsOf init)) ++
        binding.toList.map .binder ++
        CaseClause.visitsAll package binding (env.bindAll (Stmt.bindsOf init)) clauses := by
  cases init <;> rfl

theorem StmtKind.visits_loop {init post : Option Stmt} {condition : Option Expr}
    {body : Block} :
    (StmtKind.loop init condition post body).visits package env =
      init.elim [] (·.visits package env) ++
        condition.elim [] (·.visits package none (env.bindAll (Stmt.bindsOf init))) ++
        post.elim [] (·.visits package (env.bindAll (Stmt.bindsOf init))) ++
        body.visits package
          ((env.bindAll (Stmt.bindsOf init)).bindAll (Stmt.bindsOf post)) := by
  cases init <;> cases condition <;> cases post <;> rfl

theorem StmtKind.visits_range {key value : Option Expr} {define : Bool} {subject : Expr}
    {body : Block} :
    (StmtKind.range key value define subject body).visits package env =
      subject.visits package none env ++ Expr.rangeVisits package define env key ++
        Expr.rangeVisits package define (env.bindAll (Expr.rangeBinds define key)) value ++
        body.visits package
          ((env.bindAll (Expr.rangeBinds define key)).bindAll (Expr.rangeBinds define value)) := by
  rcases key with _ | key <;> rcases value with _ | value
  · rfl
  · cases value <;> rfl
  · cases key <;> rfl
  · cases key <;> cases value <;> rfl

theorem Field.visitsAll_eq_flatMap (fields : List Field) :
    Field.visitsAll package env fields =
      fields.flatMap fun field => field.type.visits package none env := by
  induction fields with
  | nil => rfl
  | cons field rest ih =>
      obtain ⟨_, _, type, _, _⟩ := field
      exact congrArg (type.visits package none env ++ ·) ih

theorem Spec.visitsAll_type {isLocal : Bool} {spec : TypeSpec} {rest : List Spec} :
    Spec.visitsAll package isLocal env (.type spec :: rest) =
      (if isLocal then [Visit.binder spec.name] else []) ++
        spec.type.visits package none (if isLocal then env.bind spec.name else env) ++
        Spec.visitsAll package isLocal (if isLocal then env.bind spec.name else env) rest := by
  obtain ⟨_, _, _, _, _⟩ := spec
  rfl

theorem CaseClause.visitsAll_cons {binding : Option Ident} {doc : List Comment}
    {list : Option (List Expr)} {body : List Stmt} {rest : List CaseClause} :
    CaseClause.visitsAll package binding env (⟨doc, list, body⟩ :: rest) =
      list.elim [] (Expr.visitsAll package env) ++
        Stmt.visitsAll package (env.bindAll binding.toList) body ++
        CaseClause.visitsAll package binding env rest := by
  cases list <;> rfl

theorem CommClause.visitsAll_cons {doc : List Comment} {comm : Option Stmt} {body : List Stmt}
    {rest : List CommClause} :
    CommClause.visitsAll package env (⟨doc, comm, body⟩ :: rest) =
      comm.elim [] (·.visits package env) ++
        Stmt.visitsAll package (env.bindAll (Stmt.bindsOf comm)) body ++
        CommClause.visitsAll package env rest := by
  cases comm <;> rfl

end

/-- The visits in a function: the types of receiver, parameters and results, their names,
and the body, which alone sees these. -/
def FuncDecl.visits (package : PackageScope) (decl : FuncDecl) : List Visit :=
  decl.lists.flatMap (·.visits package []) ++
    (decl.lists.flatMap FieldList.names).map .binder ++
    decl.body.elim [] (·.visits package (Env.bindAll [] (decl.lists.flatMap FieldList.names)))

/-- The visits in a top-level declaration. -/
def Decl.visits (package : PackageScope) : Decl → List Visit
  | .gen decl => decl.visits package false []
  | .func decl => decl.visits package

/-- The visits in a file. -/
def File.visits (package : PackageScope) (file : File) : List Visit :=
  file.decls.flatMap (·.visits package)

end GoMend
