import GoMend.Proofs.Scope.Packages
import GoMend.Proofs.Unit.Placement
import GoMend.Proofs.Token.Names

/-!
# Qualified names spelled out

A name that is qualified in memory is still one occurrence of a name.  Written down and read again
it is the selection of a member of its package.  Resolution treats the two alike as long as nothing
is reported about the qualified name or its package: the names that are declared and the shapes of
literals are the same, and so is the first report.
-/

namespace GoMend

/-- A name as an expression: with a dot in it, the selection of a member of a package.  The package
stands where the name stood. -/
def Ident.spelledOut (ident : Ident) : Expr :=
  if '.' ∈ ident.name.toList then
    .selector (.ident { ident with name := ident.headName }) ⟨ident.localName, none⟩
  else .ident ident

mutual

/-- Spell out the names in an expression or a type. -/
def Expr.spelledOut : Expr → Expr
  | .ident name => name.spelledOut
  | .literal value => .literal value
  | .composite type elements multiline =>
      .composite
        (match type with
          | some type => some type.spelledOut
          | none => none)
        (Expr.spelledOutAll elements) multiline
  | .function signature body => .function signature.spelledOut body.spelledOut
  | .paren inner => .paren inner.spelledOut
  | .selector base name => .selector base.spelledOut name
  | .index base position => .index base.spelledOut position.spelledOut
  | .slice base low high max =>
      .slice base.spelledOut
        (match low with
          | some low => some low.spelledOut
          | none => none)
        (match high with
          | some high => some high.spelledOut
          | none => none)
        (match max with
          | some max => some max.spelledOut
          | none => none)
  | .assertion base type =>
      .assertion base.spelledOut
        (match type with
          | some type => some type.spelledOut
          | none => none)
  | .call callee arguments spread =>
      .call callee.spelledOut (Expr.spelledOutAll arguments) spread
  | .star inner => .star inner.spelledOut
  | .unary op operand => .unary op operand.spelledOut
  | .binary left op right => .binary left.spelledOut op right.spelledOut
  | .keyValue key value => .keyValue key.spelledOut value.spelledOut
  | .arrayType length element => .arrayType length.spelledOut element.spelledOut
  | .mapType key value => .mapType key.spelledOut value.spelledOut
  | .chanType direction element => .chanType direction element.spelledOut
  | .funcType signature => .funcType signature.spelledOut
  | .structType fields => .structType fields.spelledOut
  | .interfaceType methods => .interfaceType methods.spelledOut
  | .variadic element => .variadic element.spelledOut
termination_by structural expr => expr

/-- Spell out the names in expressions. -/
def Expr.spelledOutAll : List Expr → List Expr
  | [] => []
  | expr :: rest => expr.spelledOut :: Expr.spelledOutAll rest
termination_by structural exprs => exprs

/-- Spell out the names in the length of an array type. -/
def ArrayLength.spelledOut : ArrayLength → ArrayLength
  | .slice => .slice
  | .inferred => .inferred
  | .fixed size => .fixed size.spelledOut
termination_by structural length => length

/-- Spell out the names in the type of a field. -/
def Field.spelledOut : Field → Field
  | ⟨doc, names, type, tag, comment⟩ => ⟨doc, names, type.spelledOut, tag, comment⟩
termination_by structural field => field

/-- Spell out the names in the types of fields. -/
def Field.spelledOutAll : List Field → List Field
  | [] => []
  | field :: rest => field.spelledOut :: Field.spelledOutAll rest
termination_by structural fields => fields

/-- Spell out the names in a bracketed list of fields. -/
def FieldList.spelledOut : FieldList → FieldList
  | ⟨fields, closing⟩ => ⟨Field.spelledOutAll fields, closing⟩
termination_by structural list => list

/-- Spell out the names in the types of parameters and results. -/
def Signature.spelledOut : Signature → Signature
  | ⟨params, results⟩ =>
      ⟨params.spelledOut,
        match results with
        | some results => some results.spelledOut
        | none => none⟩
termination_by structural signature => signature

/-- Spell out the names in an entry of a constant or variable declaration. -/
def ValueSpec.spelledOut : ValueSpec → ValueSpec
  | ⟨doc, names, type, values, comment⟩ =>
      ⟨doc, names,
        match type with
        | some type => some type.spelledOut
        | none => none,
        Expr.spelledOutAll values, comment⟩
termination_by structural spec => spec

/-- Spell out the names in an entry of a type declaration. -/
def TypeSpec.spelledOut : TypeSpec → TypeSpec
  | ⟨doc, name, isAlias, type, comment⟩ => ⟨doc, name, isAlias, type.spelledOut, comment⟩
termination_by structural spec => spec

/-- Spell out the names in an entry of a declaration. -/
def Spec.spelledOut : Spec → Spec
  | .imported spec => .imported spec
  | .value spec => .value spec.spelledOut
  | .type spec => .type spec.spelledOut
termination_by structural spec => spec

/-- Spell out the names in the entries of a declaration. -/
def Spec.spelledOutAll : List Spec → List Spec
  | [] => []
  | spec :: rest => spec.spelledOut :: Spec.spelledOutAll rest
termination_by structural specs => specs

/-- Spell out the names in a declaration. -/
def GenDecl.spelledOut : GenDecl → GenDecl
  | ⟨doc, keyword, grouped, specs, offset⟩ =>
      ⟨doc, keyword, grouped, Spec.spelledOutAll specs, offset⟩
termination_by structural decl => decl

/-- Spell out the names in a block. -/
def Block.spelledOut : Block → Block
  | ⟨stmts, closing⟩ => ⟨Stmt.spelledOutAll stmts, closing⟩
termination_by structural block => block

/-- Spell out the names in statements. -/
def Stmt.spelledOutAll : List Stmt → List Stmt
  | [] => []
  | stmt :: rest => stmt.spelledOut :: Stmt.spelledOutAll rest
termination_by structural stmts => stmts

/-- Spell out the names in a statement. -/
def Stmt.spelledOut : Stmt → Stmt
  | ⟨doc, kind, comment⟩ => ⟨doc, kind.spelledOut, comment⟩
termination_by structural stmt => stmt

/-- Spell out the names in a statement without its comments. -/
def StmtKind.spelledOut : StmtKind → StmtKind
  | .decl decl => .decl decl.spelledOut
  | .empty => .empty
  | .labeled label stmt => .labeled label stmt.spelledOut
  | .expr expr => .expr expr.spelledOut
  | .send channel value => .send channel.spelledOut value.spelledOut
  | .incDec operand increment => .incDec operand.spelledOut increment
  | .assign targets op values =>
      .assign (Expr.spelledOutAll targets) op (Expr.spelledOutAll values)
  | .go call => .go call.spelledOut
  | .defer call => .defer call.spelledOut
  | .ret results => .ret (Expr.spelledOutAll results)
  | .branch keyword label => .branch keyword label
  | .block block => .block block.spelledOut
  | .conditional init condition body alternative =>
      .conditional
        (match init with
          | some init => some init.spelledOut
          | none => none)
        condition.spelledOut body.spelledOut
        (match alternative with
          | some alternative => some alternative.spelledOut
          | none => none)
  | .switch init tag clauses =>
      .switch
        (match init with
          | some init => some init.spelledOut
          | none => none)
        (match tag with
          | some tag => some tag.spelledOut
          | none => none)
        (CaseClause.spelledOutAll clauses)
  | .typeSwitch init binding subject clauses =>
      .typeSwitch
        (match init with
          | some init => some init.spelledOut
          | none => none)
        binding subject.spelledOut
        (CaseClause.spelledOutAll clauses)
  | .select clauses => .select (CommClause.spelledOutAll clauses)
  | .loop init condition post body =>
      .loop
        (match init with
          | some init => some init.spelledOut
          | none => none)
        (match condition with
          | some condition => some condition.spelledOut
          | none => none)
        (match post with
          | some post => some post.spelledOut
          | none => none)
        body.spelledOut
  | .range key value define subject body =>
      .range
        (match key with
          | some key => some key.spelledOut
          | none => none)
        (match value with
          | some value => some value.spelledOut
          | none => none)
        define subject.spelledOut body.spelledOut
termination_by structural kind => kind

/-- Spell out the names in the clauses of a switch. -/
def CaseClause.spelledOutAll : List CaseClause → List CaseClause
  | [] => []
  | ⟨doc, list, body⟩ :: rest =>
      ⟨doc,
        match list with
        | some list => some (Expr.spelledOutAll list)
        | none => none,
        Stmt.spelledOutAll body⟩ ::
      CaseClause.spelledOutAll rest
termination_by structural clauses => clauses

/-- Spell out the names in the clauses of a select statement. -/
def CommClause.spelledOutAll : List CommClause → List CommClause
  | [] => []
  | ⟨doc, comm, body⟩ :: rest =>
      ⟨doc,
        match comm with
        | some comm => some comm.spelledOut
        | none => none,
        Stmt.spelledOutAll body⟩ ::
      CommClause.spelledOutAll rest
termination_by structural clauses => clauses

end

namespace FuncDecl

/-- Spell out the names in a function or method. -/
def spelledOut (decl : FuncDecl) : FuncDecl :=
  { decl with
    receiver := decl.receiver.map (·.spelledOut)
    signature := decl.signature.spelledOut
    body := decl.body.map (·.spelledOut) }

end FuncDecl

namespace Decl

/-- Spell out the names in a top-level declaration. -/
def spelledOut : Decl → Decl
  | .gen decl => .gen decl.spelledOut
  | .func decl => .func decl.spelledOut

end Decl

namespace File

/-- Spell out the names in a file. -/
def spelledOut (file : File) : File :=
  { file with decls := file.decls.map (·.spelledOut) }

end File

/-! ## Equations for optional parts -/

theorem Expr.spelledOut_ident (name : Ident) : (Expr.ident name).spelledOut = name.spelledOut :=
  rfl

theorem Expr.spelledOutAll_cons (expr : Expr) (rest : List Expr) :
    Expr.spelledOutAll (expr :: rest) = expr.spelledOut :: Expr.spelledOutAll rest :=
  rfl

theorem Spec.spelledOutAll_cons (spec : Spec) (rest : List Spec) :
    Spec.spelledOutAll (spec :: rest) = spec.spelledOut :: Spec.spelledOutAll rest :=
  rfl

theorem StmtKind.spelledOut_assign (targets : List Expr) (op : AssignOp) (values : List Expr) :
    (StmtKind.assign targets op values).spelledOut =
      .assign (Expr.spelledOutAll targets) op (Expr.spelledOutAll values) :=
  rfl

theorem StmtKind.spelledOut_conditional (init alternative : Option Stmt) (condition : Expr)
    (body : Block) :
    (StmtKind.conditional init condition body alternative).spelledOut =
      .conditional (init.map (·.spelledOut)) condition.spelledOut body.spelledOut
        (alternative.map (·.spelledOut)) := by
  cases init <;> cases alternative <;> rfl

theorem StmtKind.spelledOut_switch (init : Option Stmt) (tag : Option Expr)
    (clauses : List CaseClause) :
    (StmtKind.switch init tag clauses).spelledOut =
      .switch (init.map (·.spelledOut)) (tag.map (·.spelledOut))
        (CaseClause.spelledOutAll clauses) := by
  cases init <;> cases tag <;> rfl

theorem StmtKind.spelledOut_typeSwitch (init : Option Stmt) (binding : Option Ident)
    (subject : Expr) (clauses : List CaseClause) :
    (StmtKind.typeSwitch init binding subject clauses).spelledOut =
      .typeSwitch (init.map (·.spelledOut)) binding subject.spelledOut
        (CaseClause.spelledOutAll clauses) := by
  cases init <;> rfl

theorem StmtKind.spelledOut_loop (init post : Option Stmt) (condition : Option Expr)
    (body : Block) :
    (StmtKind.loop init condition post body).spelledOut =
      .loop (init.map (·.spelledOut)) (condition.map (·.spelledOut)) (post.map (·.spelledOut))
        body.spelledOut := by
  cases init <;> cases condition <;> cases post <;> rfl

theorem StmtKind.spelledOut_range (key value : Option Expr) (define : Bool) (subject : Expr)
    (body : Block) :
    (StmtKind.range key value define subject body).spelledOut =
      .range (key.map (·.spelledOut)) (value.map (·.spelledOut)) define subject.spelledOut
        body.spelledOut := by
  cases key <;> cases value <;> rfl

theorem CommClause.spelledOutAll_cons (doc : List Comment) (comm : Option Stmt)
    (body : List Stmt) (rest : List CommClause) :
    CommClause.spelledOutAll (⟨doc, comm, body⟩ :: rest) =
      ⟨doc, comm.map (·.spelledOut), Stmt.spelledOutAll body⟩ ::
        CommClause.spelledOutAll rest := by
  cases comm <;> rfl

/-! ## Declared names -/

theorem Ident.spelledOut_of_plain {ident : Ident} (plain : ident.IsPlain) :
    ident.spelledOut = .ident ident :=
  if_neg plain

theorem Ident.spelledOut_of_dotted {ident : Ident} (dotted : '.' ∈ ident.name.toList) :
    ident.spelledOut =
      .selector (.ident { ident with name := ident.headName }) ⟨ident.localName, none⟩ :=
  if_pos dotted

theorem Ident.spelledOut_cases (ident : Ident) : ident.spelledOut = .ident ident ∨
    ident.spelledOut =
      .selector (.ident { ident with name := ident.headName }) ⟨ident.localName, none⟩ :=
  (em' _).imp Ident.spelledOut_of_plain Ident.spelledOut_of_dotted

theorem Field.names_spelledOutAll (fields : List Field) :
    (Field.spelledOutAll fields).flatMap (·.names) = fields.flatMap (·.names) := by
  induction fields with
  | nil => rfl
  | cons field rest ih =>
      obtain ⟨_, names, _, _, _⟩ := field
      exact congrArg (names ++ ·) ih

theorem FieldList.names_spelledOut (list : FieldList) : list.spelledOut.names = list.names := by
  obtain ⟨fields, _⟩ := list
  exact Field.names_spelledOutAll fields

theorem Signature.names_spelledOut (signature : Signature) :
    signature.spelledOut.names = signature.names := by
  obtain ⟨params, results⟩ := signature
  cases results with
  | none => exact congrArg (· ++ []) (FieldList.names_spelledOut params)
  | some results =>
      exact congrArg₂ (· ++ ·) (FieldList.names_spelledOut params)
        (FieldList.names_spelledOut results)

theorem Spec.binds_spelledOutAll (specs : List Spec) :
    (Spec.spelledOutAll specs).flatMap Spec.binds = specs.flatMap Spec.binds := by
  induction specs with
  | nil => rfl
  | cons spec rest ih =>
      have same : spec.spelledOut.binds = spec.binds := by
        rcases spec with _ | ⟨_, _, _, _, _⟩ | ⟨_, _, _, _, _⟩ <;> rfl
      rw [Spec.spelledOutAll_cons, List.flatMap_cons, List.flatMap_cons, same, ih]

/-- What is a plain name, and what is none, is so when it is spelled out. -/
theorem Expr.ident?_spelledOut {expr : Expr} (plain : ∀ ident ∈ expr.ident?, ident.IsPlain) :
    expr.spelledOut.ident? = expr.ident? := by
  cases expr with
  | ident name =>
      change name.spelledOut.ident? = some name
      rw [Ident.spelledOut_of_plain (plain name rfl)]
      rfl
  | composite type => cases type <;> rfl
  | slice _ low high max => cases low <;> cases high <;> cases max <;> rfl
  | assertion _ type => cases type <;> rfl
  | _ => rfl

theorem Expr.bindsAll_spelledOutAll (targets : List Expr)
    (plain : ∀ ident ∈ Expr.bindsAll targets, ident.IsPlain) :
    Expr.bindsAll (Expr.spelledOutAll targets) = Expr.bindsAll targets := by
  induction targets with
  | nil => rfl
  | cons target rest ih =>
      have inTarget : ∀ name ∈ target.ident?, name.IsPlain := fun name isName =>
        plain name (List.mem_filterMap.2 ⟨target, List.mem_cons_self, isName⟩)
      have inRest : ∀ name ∈ Expr.bindsAll rest, name.IsPlain := fun name member =>
        plain name ((List.sublist_cons_self target rest).filterMap _ |>.subset member)
      change (target.spelledOut :: Expr.spelledOutAll rest).filterMap Expr.ident? = _
      rw [bindsAll, List.filterMap_cons, List.filterMap_cons, Expr.ident?_spelledOut inTarget]
      cases target.ident? with
      | none => exact ih inRest
      | some name => exact congrArg (name :: ·) (ih inRest)

theorem Expr.rangeBinds_spelledOut (define : Bool) (target : Option Expr)
    (plain : ∀ ident ∈ Expr.rangeBinds define target, ident.IsPlain) :
    Expr.rangeBinds define (target.map (·.spelledOut)) = Expr.rangeBinds define target := by
  cases define with
  | false => rfl
  | true =>
      cases target with
      | none => rfl
      | some expr =>
          exact congrArg Option.toList (Expr.ident?_spelledOut fun name isName =>
            plain name (Option.mem_toList.2 isName))

mutual

theorem Stmt.binds_spelledOut : (stmt : Stmt) → (∀ ident ∈ stmt.binds, ident.IsPlain) →
    stmt.spelledOut.binds = stmt.binds
  | ⟨_, kind, _⟩, plain => StmtKind.binds_spelledOut kind plain

theorem StmtKind.binds_spelledOut (kind : StmtKind) (plain : ∀ ident ∈ kind.binds, ident.IsPlain) :
    kind.spelledOut.binds = kind.binds := by
  cases kind with
  | decl decl =>
      obtain ⟨_, _, _, specs, _⟩ := decl
      exact Spec.binds_spelledOutAll specs
  | labeled _ stmt => exact Stmt.binds_spelledOut stmt plain
  | assign targets op values =>
      rw [StmtKind.binds] at plain
      rw [StmtKind.spelledOut_assign, StmtKind.binds, StmtKind.binds]
      split
      · rename_i define
        rw [if_pos define] at plain
        exact Expr.bindsAll_spelledOutAll targets plain
      · rfl
  | conditional init _ _ alternative => cases init <;> cases alternative <;> rfl
  | switch init tag => cases init <;> cases tag <;> rfl
  | typeSwitch init => cases init <;> rfl
  | loop init condition post => cases init <;> cases condition <;> cases post <;> rfl
  | range key value => cases key <;> cases value <;> rfl
  | _ => rfl

end

theorem Stmt.bindsOf_spelledOut (stmt : Option Stmt)
    (plain : ∀ ident ∈ Stmt.bindsOf stmt, ident.IsPlain) :
    Stmt.bindsOf (stmt.map (·.spelledOut)) = Stmt.bindsOf stmt := by
  cases stmt with
  | none => rfl
  | some stmt => exact Stmt.binds_spelledOut stmt plain

/-! ## Visits -/

section

variable {α : Type} (report : Visit → Option α) (old new : PackageScope)

/-- A name that may be spelled out: it has no dot, or no type is declared under it and nothing is
reported about it or about its package, wherever it is used. -/
def Ident.Settled (ident : Ident) : Prop :=
  ident.IsPlain ∨ old.declaredType? ident.name = none ∧ ∀ env,
    report (.use ident env) = none ∧
      report (.use { ident with name := ident.headName } env) = none

/-- Visits with the same first report, if packages are alike, names may be spelled out, and what is
declared has no dot. -/
def Respelled (names : List Ident) (before after : List Visit) : Prop :=
  PackageScope.Alike old new → (∀ ident ∈ names, ident.Settled report old) →
    (∀ ident, .binder ident ∈ before → ident.IsPlain) →
      after.findSome? report = before.findSome? report

end

namespace Respelled

variable {α : Type} {report : Visit → Option α} {old new : PackageScope} {names later : List Ident}
  {before after visits visits' : List Visit}

theorem refl (names : List Ident) (visits : List Visit) :
    Respelled report old new names visits visits :=
  fun _ _ _ => rfl

/-- More names may be looked at than there are. -/
theorem mono (respelled : Respelled report old new names before after) (subset : names ⊆ later) :
    Respelled report old new later before after :=
  fun packages settled plain =>
    respelled packages (fun ident member => settled ident (subset member)) plain

/-- What follows may rely on what holds of the names and visits before it. -/
theorem andThen (first : Respelled report old new names before after)
    (second : PackageScope.Alike old new → (∀ ident ∈ names, ident.Settled report old) →
      (∀ ident, .binder ident ∈ before → ident.IsPlain) →
        Respelled report old new later visits visits') :
    Respelled report old new (names ++ later) (before ++ visits) (after ++ visits') := by
  intro packages settled plain
  obtain ⟨settledFirst, settledSecond⟩ := List.forall_mem_append.1 settled
  have plainFirst : ∀ ident, .binder ident ∈ before → ident.IsPlain :=
    fun ident member => plain ident (List.mem_append_left _ member)
  have plainSecond : ∀ ident, .binder ident ∈ visits → ident.IsPlain :=
    fun ident member => plain ident (List.mem_append_right _ member)
  rw [List.findSome?_append, List.findSome?_append, first packages settledFirst plainFirst,
    second packages settledFirst plainFirst packages settledSecond plainSecond]

theorem append (first : Respelled report old new names before after)
    (second : Respelled report old new later visits visits') :
    Respelled report old new (names ++ later) (before ++ visits) (after ++ visits') :=
  first.andThen fun _ _ _ => second

/-- What is declared may be taken to have no dot. -/
theorem ofPlain (respelled : (∀ ident, .binder ident ∈ before → ident.IsPlain) →
    Respelled report old new names before after) : Respelled report old new names before after :=
  fun packages settled plain => respelled plain packages settled plain

end Respelled

section

variable {α : Type} {report : Visit → Option α} {old new : PackageScope}

theorem Expr.tellsShape_spelledOut {type : Expr} (silent : type.tellsShape = false) :
    type.spelledOut.tellsShape = false := by
  cases type with
  | ident | paren | star | arrayType | mapType | structType => cases silent
  | composite type => cases type <;> rfl
  | slice _ low high max => cases low <;> cases high <;> cases max <;> rfl
  | assertion _ type => cases type <;> rfl
  | _ => rfl

/-- A type stays alike when it is spelled out. -/
theorem Expr.alike_spelledOut : (type : Expr) → (∀ ident ∈ type.idents, ident.Settled report old) →
    Expr.Alike old new type type.spelledOut
  | .ident name, settled => by
      change Expr.Alike old new (.ident name) name.spelledOut
      by_cases dotted : '.' ∈ name.name.toList
      · rw [Ident.spelledOut_of_dotted dotted]
        rcases settled name List.mem_cons_self with plain | ⟨unknown, _⟩
        · exact absurd dotted plain
        · exact .qualified unknown
      · rw [Ident.spelledOut_of_plain dotted]
        exact .same (.ident name)
  | .paren inner, settled => .paren (Expr.alike_spelledOut inner settled)
  | .star inner, settled => .star (Expr.alike_spelledOut inner settled)
  | .arrayType length element, settled =>
      .arrayType (Expr.alike_spelledOut element (List.forall_mem_append.1 settled).2)
  | .mapType key value, settled =>
      .mapType (Expr.alike_spelledOut key (List.forall_mem_append.1 settled).1)
        (Expr.alike_spelledOut value (List.forall_mem_append.1 settled).2)
  | .structType _, _ => .structType
  | .literal _, _ | .composite _ _ _, _ | .function _ _, _ | .selector _ _, _ | .index _ _, _
  | .slice _ _ _ _, _ | .assertion _ _, _ | .call _ _ _, _ | .unary _ _, _ | .binary _ _ _, _
  | .keyValue _ _, _ | .chanType _ _, _ | .funcType _, _ | .interfaceType _, _
  | .variadic _, _ => .ofSilent rfl (Expr.tellsShape_spelledOut rfl)

/-- The use of a name, and of the package of a name that is spelled out. -/
theorem Ident.visits_spelledOut {hint hint' : Option Expr} (env : Env) (name : Ident) :
    Respelled report old new [name] ((Expr.ident name).visits old hint env)
      (name.spelledOut.visits new hint' env) := by
  by_cases dotted : '.' ∈ name.name.toList
  · rw [Ident.spelledOut_of_dotted dotted]
    intro _ settled _
    rcases settled name List.mem_cons_self with plain | ⟨_, silent⟩
    · exact absurd dotted plain
    · change [Visit.use _ env].findSome? report = [Visit.use name env].findSome? report
      rw [List.findSome?_singleton, List.findSome?_singleton, (silent env).1, (silent env).2]
  · rw [Ident.spelledOut_of_plain dotted]
    exact .refl _ _

/-- A name that is spelled out may be read as a key where the name is not: then there is nothing to
report about its package. -/
theorem Respelled.key {shape shape' : Shape} (alike : Shape.Alike old new shape shape') {key : Expr}
    {env : Env} (respelled : Respelled report old new key.idents (key.visits old shape.key? env)
      (key.spelledOut.visits new shape'.key? env)) :
    Respelled report old new key.idents
      (if shape.resolvesKey key then key.visits old shape.key? env else [])
      (if shape'.resolvesKey key.spelledOut then key.spelledOut.visits new shape'.key? env
        else []) := by
  cases alike with
  | struct => exact .refl _ _
  | map | array => exact respelled
  | unknown =>
      cases key with
      | ident name =>
          change Respelled report old new [name] []
            (if Shape.unknown.resolvesKey name.spelledOut then name.spelledOut.visits new none env
              else [])
          by_cases dotted : '.' ∈ name.name.toList
          · rw [Ident.spelledOut_of_dotted dotted]
            intro _ settled _
            rcases settled name List.mem_cons_self with plain | ⟨_, silent⟩
            · exact absurd dotted plain
            · change [Visit.use _ env].findSome? report = [].findSome? report
              rw [List.findSome?_singleton, (silent env).2, List.findSome?_nil]
          · rw [Ident.spelledOut_of_plain dotted]
            exact .refl _ _
      | composite type => cases type <;> exact respelled
      | slice _ low high max => cases low <;> cases high <;> cases max <;> exact respelled
      | assertion _ type => cases type <;> exact respelled
      | _ => exact respelled

mutual

theorem Expr.visits_spelledOut {hint hint' : Option Expr}
    (hints : Option.Rel (Expr.Alike old new) hint hint') (env : Env) : (expr : Expr) →
    Respelled report old new expr.idents (expr.visits old hint env)
      (expr.spelledOut.visits new hint' env)
  | .ident name => name.visits_spelledOut env
  | .literal _ => .refl _ _
  | .composite type elements _ => by
      have elementsRespelled := fun {shape shape'} (alike : Shape.Alike old new shape shape') =>
        Expr.visitsElements_spelledOut alike env elements
      cases type with
      | none =>
          exact fun packages =>
            elementsRespelled (env.shape_alike packages .none hints) packages
      | some type =>
          exact (Expr.visits_spelledOut .none env type).andThen fun packages settled _ =>
            elementsRespelled (env.shape_alike packages
              (.some (Expr.alike_spelledOut type settled)) hints)
  | .function signature body => by
      have signatureRespelled := Signature.visits_spelledOut env signature
      have bodyRespelled := Block.visits_spelledOut (env.bindAll signature.names) body
      change Respelled report old new _ _ (signature.spelledOut.visits new env ++
        signature.spelledOut.names.map .binder ++
          body.spelledOut.visits new (env.bindAll signature.spelledOut.names))
      rw [Signature.names_spelledOut]
      exact ((signatureRespelled.append (.refl [] _)).append bodyRespelled).mono
        (show _ ⊆ signature.idents ++ body.idents by simp)
  | .paren inner => Expr.visits_spelledOut .none env inner
  | .selector base _ =>
      (Expr.visits_spelledOut .none env base).mono (List.subset_append_left _ _)
  | .index base position =>
      (Expr.visits_spelledOut .none env base).append (Expr.visits_spelledOut .none env position)
  | .slice base low high max => by
      have baseRespelled := Expr.visits_spelledOut .none env base
      have lowRespelled := Expr.visitsOptional_spelledOut env low
      have highRespelled := Expr.visitsOptional_spelledOut env high
      have maxRespelled := Expr.visitsOptional_spelledOut env max
      cases low <;> cases high <;> cases max <;>
        exact ((baseRespelled.append lowRespelled).append highRespelled).append maxRespelled
  | .assertion base type => by
      have baseRespelled := Expr.visits_spelledOut .none env base
      have typeRespelled := Expr.visitsOptional_spelledOut env type
      cases type <;> exact baseRespelled.append typeRespelled
  | .call callee arguments _ =>
      (Expr.visits_spelledOut .none env callee).append (Expr.visitsAll_spelledOut env arguments)
  | .star inner => Expr.visits_spelledOut .none env inner
  | .unary _ operand => Expr.visits_spelledOut .none env operand
  | .binary left _ right =>
      (Expr.visits_spelledOut .none env left).append (Expr.visits_spelledOut .none env right)
  | .keyValue key value =>
      (Expr.visits_spelledOut .none env key).append (Expr.visits_spelledOut .none env value)
  | .arrayType length element =>
      (ArrayLength.visits_spelledOut env length).append (Expr.visits_spelledOut .none env element)
  | .mapType key value =>
      (Expr.visits_spelledOut .none env key).append (Expr.visits_spelledOut .none env value)
  | .chanType _ element => Expr.visits_spelledOut .none env element
  | .funcType signature => Signature.visits_spelledOut env signature
  | .structType fields => FieldList.visits_spelledOut env fields
  | .interfaceType methods => FieldList.visits_spelledOut env methods
  | .variadic element => Expr.visits_spelledOut .none env element

theorem Expr.visitsOptional_spelledOut (env : Env) : (expr : Option Expr) →
    Respelled report old new (expr.elim [] (·.idents)) (expr.elim [] (·.visits old none env))
      ((expr.map (·.spelledOut)).elim [] (·.visits new none env))
  | none => .refl _ _
  | some expr => Expr.visits_spelledOut .none env expr

theorem Expr.visitsAll_spelledOut (env : Env) : (exprs : List Expr) →
    Respelled report old new (Expr.identsAll exprs) (Expr.visitsAll old env exprs)
      (Expr.visitsAll new env (Expr.spelledOutAll exprs))
  | [] => .refl _ _
  | expr :: rest =>
      (Expr.visits_spelledOut .none env expr).append (Expr.visitsAll_spelledOut env rest)

theorem Expr.visitsElements_spelledOut {shape shape' : Shape}
    (alike : Shape.Alike old new shape shape') (env : Env) : (exprs : List Expr) →
    Respelled report old new (Expr.identsAll exprs) (Expr.visitsElements old shape env exprs)
      (Expr.visitsElements new shape' env (Expr.spelledOutAll exprs))
  | [] => .refl _ _
  | element :: rest => by
      have elementRespelled := Expr.visits_spelledOut alike.element? env element
      have restRespelled := Expr.visitsElements_spelledOut alike env rest
      cases element with
      | keyValue key value =>
          have keyRespelled := Respelled.key alike (Expr.visits_spelledOut alike.key? env key)
          have valueRespelled := Expr.visits_spelledOut alike.element? env value
          exact (keyRespelled.append valueRespelled).append restRespelled
      | ident name =>
          have respelled := elementRespelled.append restRespelled
          rcases name.spelledOut_cases with same | same <;>
            simp only [Expr.spelledOut_ident, same] at respelled <;>
            simp only [Expr.spelledOutAll_cons, Expr.spelledOut_ident, same] <;>
            exact respelled
      | composite type => cases type <;> exact elementRespelled.append restRespelled
      | slice _ low high max =>
          cases low <;> cases high <;> cases max <;> exact elementRespelled.append restRespelled
      | assertion _ type => cases type <;> exact elementRespelled.append restRespelled
      | _ => exact elementRespelled.append restRespelled

theorem Expr.visitsTargets_spelledOut (env : Env) : (targets : List Expr) →
    Respelled report old new (Expr.identsAll targets) (Expr.visitsTargets old env targets)
      (Expr.visitsTargets new env (Expr.spelledOutAll targets))
  | [] => .refl _ _
  | target :: rest => by
      have targetRespelled := Expr.visits_spelledOut .none env target
      have restRespelled := fun env => Expr.visitsTargets_spelledOut env rest
      cases target with
      | ident name =>
          refine .ofPlain fun plain => ?_
          have same := Ident.spelledOut_of_plain (plain name List.mem_cons_self)
          simp only [Expr.spelledOutAll_cons, Expr.spelledOut_ident, same]
          exact (Respelled.refl [name] [.binder name]).append (restRespelled (env.bind name))
      | composite type => cases type <;> exact targetRespelled.append (restRespelled env)
      | slice _ low high max =>
          cases low <;> cases high <;> cases max <;>
            exact targetRespelled.append (restRespelled env)
      | assertion _ type => cases type <;> exact targetRespelled.append (restRespelled env)
      | _ => exact targetRespelled.append (restRespelled env)

theorem ArrayLength.visits_spelledOut (env : Env) : (length : ArrayLength) →
    Respelled report old new length.idents (length.visits old env)
      (length.spelledOut.visits new env)
  | .slice => .refl _ _
  | .inferred => .refl _ _
  | .fixed size => Expr.visits_spelledOut .none env size

theorem Field.visitsAll_spelledOut (env : Env) : (fields : List Field) →
    Respelled report old new (Field.identsAll fields) (Field.visitsAll old env fields)
      (Field.visitsAll new env (Field.spelledOutAll fields))
  | [] => .refl _ _
  | ⟨_, _, type, _, _⟩ :: rest =>
      ((Expr.visits_spelledOut .none env type).mono (List.subset_append_right _ _)).append
        (Field.visitsAll_spelledOut env rest)

theorem FieldList.visits_spelledOut (env : Env) : (list : FieldList) →
    Respelled report old new list.idents (list.visits old env) (list.spelledOut.visits new env)
  | ⟨fields, _⟩ => Field.visitsAll_spelledOut env fields

theorem Signature.visits_spelledOut (env : Env) : (signature : Signature) →
    Respelled report old new signature.idents (signature.visits old env)
      (signature.spelledOut.visits new env)
  | ⟨params, none⟩ => (FieldList.visits_spelledOut env params).append (.refl _ _)
  | ⟨params, some results⟩ =>
      (FieldList.visits_spelledOut env params).append (FieldList.visits_spelledOut env results)

theorem Spec.visitsAll_spelledOut (isLocal : Bool) (env : Env) : (specs : List Spec) →
    Respelled report old new (Spec.identsAll specs) (Spec.visitsAll old isLocal env specs)
      (Spec.visitsAll new isLocal env (Spec.spelledOutAll specs))
  | [] => .refl _ _
  | .imported _ :: rest =>
      (Spec.visitsAll_spelledOut isLocal env rest).mono (List.subset_append_right _ _)
  | .value ⟨_, names, declared, values, _⟩ :: rest => by
      have declaredRespelled := Expr.visitsOptional_spelledOut env declared
      have valuesRespelled := Expr.visitsAll_spelledOut env values
      have restRespelled :=
        Spec.visitsAll_spelledOut isLocal (if isLocal then env.bindAll names else env) rest
      have respelled := ((declaredRespelled.append valuesRespelled).append
        (.refl [] (if isLocal then names.map .binder else []))).append restRespelled
      cases declared <;> exact respelled.mono (by simp [Spec.identsAll, Spec.collectAll,
        Spec.collect, ValueSpec.collect])
  | .type ⟨_, name, _, declared, _⟩ :: rest => by
      have declaredRespelled :=
        Expr.visits_spelledOut .none (if isLocal then env.bind name else env) declared
      have restRespelled :=
        Spec.visitsAll_spelledOut isLocal (if isLocal then env.bind name else env) rest
      exact (((Respelled.refl [name] (if isLocal then [.binder name] else [])).append
        declaredRespelled).append restRespelled)

theorem GenDecl.visits_spelledOut (isLocal : Bool) (env : Env) : (decl : GenDecl) →
    Respelled report old new decl.idents (decl.visits old isLocal env)
      (decl.spelledOut.visits new isLocal env)
  | ⟨_, _, _, specs, _⟩ => Spec.visitsAll_spelledOut isLocal env specs

theorem Block.visits_spelledOut (env : Env) : (block : Block) →
    Respelled report old new block.idents (block.visits old env)
      (block.spelledOut.visits new env)
  | ⟨stmts, _⟩ => Stmt.visitsAll_spelledOut env stmts

theorem Stmt.visitsAll_spelledOut (env : Env) : (stmts : List Stmt) →
    Respelled report old new (Stmt.identsAll stmts) (Stmt.visitsAll old env stmts)
      (Stmt.visitsAll new env (Stmt.spelledOutAll stmts))
  | [] => .refl _ _
  | stmt :: rest => by
      have restRespelled := Stmt.visitsAll_spelledOut (env.bindAll stmt.binds) rest
      refine (Stmt.visits_spelledOut env stmt).andThen fun _ _ plain => ?_
      rw [Stmt.binds_spelledOut stmt fun ident member =>
        plain ident (Stmt.binder_mem_visits old env stmt member)]
      exact restRespelled

theorem Stmt.visits_spelledOut (env : Env) : (stmt : Stmt) →
    Respelled report old new stmt.idents (stmt.visits old env) (stmt.spelledOut.visits new env)
  | ⟨_, kind, _⟩ => StmtKind.visits_spelledOut env kind

theorem Stmt.visitsOptional_spelledOut (env : Env) : (stmt : Option Stmt) →
    Respelled report old new (stmt.elim [] (·.idents)) (stmt.elim [] (·.visits old env))
      ((stmt.map (·.spelledOut)).elim [] (·.visits new env))
  | none => .refl _ _
  | some stmt => Stmt.visits_spelledOut env stmt

theorem StmtKind.visits_spelledOut (env : Env) : (kind : StmtKind) →
    Respelled report old new kind.idents (kind.visits old env) (kind.spelledOut.visits new env)
  | .decl decl => GenDecl.visits_spelledOut true env decl
  | .empty => .refl _ _
  | .branch _ _ => .refl _ _
  | .labeled _ stmt =>
      (Stmt.visits_spelledOut env stmt).mono (List.subset_append_right _ _)
  | .expr expr => Expr.visits_spelledOut .none env expr
  | .go call => Expr.visits_spelledOut .none env call
  | .defer call => Expr.visits_spelledOut .none env call
  | .send channel value =>
      (Expr.visits_spelledOut .none env channel).append (Expr.visits_spelledOut .none env value)
  | .incDec operand _ => Expr.visits_spelledOut .none env operand
  | .assign targets op values => by
      have targetsRespelled := Expr.visitsAll_spelledOut env targets
      have declaredRespelled := Expr.visitsTargets_spelledOut env targets
      have valuesRespelled := Expr.visitsAll_spelledOut env values
      rw [StmtKind.spelledOut_assign, StmtKind.visits_assign, StmtKind.visits_assign,
        StmtKind.idents, StmtKind.collect_assign]
      split
      · exact (valuesRespelled.append declaredRespelled).mono (by simp)
      · exact targetsRespelled.append valuesRespelled
  | .ret results => Expr.visitsAll_spelledOut env results
  | .block block => Block.visits_spelledOut env block
  | .conditional init condition body alternative => by
      have initRespelled := Stmt.visitsOptional_spelledOut env init
      have conditionRespelled :=
        Expr.visits_spelledOut .none (env.bindAll (Stmt.bindsOf init)) condition
      have bodyRespelled := Block.visits_spelledOut (env.bindAll (Stmt.bindsOf init)) body
      have alternativeRespelled :=
        Stmt.visitsOptional_spelledOut (env.bindAll (Stmt.bindsOf init)) alternative
      rw [StmtKind.spelledOut_conditional, StmtKind.visits_conditional,
        StmtKind.visits_conditional, StmtKind.idents, StmtKind.collect_conditional]
      refine .ofPlain fun plain => ?_
      rw [Stmt.bindsOf_spelledOut init fun ident member => plain ident (by
        simp [Stmt.binder_mem_visitsOptional old env init member])]
      exact ((initRespelled.append conditionRespelled).append bodyRespelled).append
        alternativeRespelled
  | .switch init tag clauses => by
      have initRespelled := Stmt.visitsOptional_spelledOut env init
      have tagRespelled := Expr.visitsOptional_spelledOut (env.bindAll (Stmt.bindsOf init)) tag
      have clausesRespelled :=
        CaseClause.visitsAll_spelledOut none (env.bindAll (Stmt.bindsOf init)) clauses
      rw [StmtKind.spelledOut_switch, StmtKind.visits_switch, StmtKind.visits_switch,
        StmtKind.idents, StmtKind.collect_switch]
      refine .ofPlain fun plain => ?_
      rw [Stmt.bindsOf_spelledOut init fun ident member => plain ident (by
        simp [Stmt.binder_mem_visitsOptional old env init member])]
      exact (initRespelled.append tagRespelled).append clausesRespelled
  | .typeSwitch init binding subject clauses => by
      have initRespelled := Stmt.visitsOptional_spelledOut env init
      have subjectRespelled :=
        Expr.visits_spelledOut .none (env.bindAll (Stmt.bindsOf init)) subject
      have clausesRespelled :=
        CaseClause.visitsAll_spelledOut binding (env.bindAll (Stmt.bindsOf init)) clauses
      rw [StmtKind.spelledOut_typeSwitch, StmtKind.visits_typeSwitch, StmtKind.visits_typeSwitch,
        StmtKind.idents, StmtKind.collect_typeSwitch]
      refine .ofPlain fun plain => ?_
      rw [Stmt.bindsOf_spelledOut init fun ident member => plain ident (by
        simp [Stmt.binder_mem_visitsOptional old env init member])]
      exact (((initRespelled.append subjectRespelled).append (.refl [] _)).append
        clausesRespelled).mono (by simp)
  | .select clauses => CommClause.visitsAll_spelledOut env clauses
  | .loop init condition post body => by
      have initRespelled := Stmt.visitsOptional_spelledOut env init
      have conditionRespelled :=
        Expr.visitsOptional_spelledOut (env.bindAll (Stmt.bindsOf init)) condition
      have postRespelled := Stmt.visitsOptional_spelledOut (env.bindAll (Stmt.bindsOf init)) post
      have bodyRespelled := Block.visits_spelledOut
        ((env.bindAll (Stmt.bindsOf init)).bindAll (Stmt.bindsOf post)) body
      rw [StmtKind.spelledOut_loop, StmtKind.visits_loop, StmtKind.visits_loop,
        StmtKind.idents, StmtKind.collect_loop]
      refine .ofPlain fun plain => ?_
      rw [Stmt.bindsOf_spelledOut init fun ident member => plain ident (by
          simp [Stmt.binder_mem_visitsOptional old env init member]),
        Stmt.bindsOf_spelledOut post fun ident member => plain ident (by
          simp [Stmt.binder_mem_visitsOptional old (env.bindAll (Stmt.bindsOf init)) post member])]
      exact ((initRespelled.append conditionRespelled).append postRespelled).append bodyRespelled
  | .range key value define subject body => by
      have subjectRespelled := Expr.visits_spelledOut .none env subject
      have keyRespelled := Expr.rangeVisits_spelledOut define env key
      have valueRespelled :=
        Expr.rangeVisits_spelledOut define (env.bindAll (Expr.rangeBinds define key)) value
      have bodyRespelled := Block.visits_spelledOut
        ((env.bindAll (Expr.rangeBinds define key)).bindAll (Expr.rangeBinds define value)) body
      rw [StmtKind.spelledOut_range, StmtKind.visits_range, StmtKind.visits_range,
        StmtKind.idents, StmtKind.collect_range]
      refine .ofPlain fun plain => ?_
      rw [Expr.rangeBinds_spelledOut define key fun ident member => plain ident (by
          simp [Expr.binder_mem_rangeVisits old define env key member]),
        Expr.rangeBinds_spelledOut define value fun ident member => plain ident (by
          simp [Expr.binder_mem_rangeVisits old define
            (env.bindAll (Expr.rangeBinds define key)) value member])]
      refine (((subjectRespelled.append keyRespelled).append valueRespelled).append
        bodyRespelled).mono fun ident member => ?_
      simp only [List.mem_append] at member ⊢
      grind

theorem Expr.rangeVisits_spelledOut (define : Bool) (env : Env) : (target : Option Expr) →
    Respelled report old new (target.elim [] (·.idents))
      (Expr.rangeVisits old define env target)
      (Expr.rangeVisits new define env (target.map (·.spelledOut)))
  | none => .refl _ _
  | some expr => by
      have exprRespelled := Expr.visits_spelledOut .none env expr
      cases expr with
      | ident name =>
          change Respelled report old new _ _
            (Expr.rangeVisits new define env (some name.spelledOut))
          cases define with
          | true =>
              refine .ofPlain fun plain => ?_
              rw [Ident.spelledOut_of_plain (plain name List.mem_cons_self)]
              exact .refl _ _
          | false =>
              rcases name.spelledOut_cases with same | same <;>
                simp only [Expr.spelledOut_ident, same] at exprRespelled ⊢ <;>
                exact exprRespelled
      | composite type => cases type <;> exact exprRespelled
      | slice _ low high max => cases low <;> cases high <;> cases max <;> exact exprRespelled
      | assertion _ type => cases type <;> exact exprRespelled
      | _ => exact exprRespelled

theorem CaseClause.visitsAll_spelledOut (binding : Option Ident) (env : Env) :
    (clauses : List CaseClause) →
    Respelled report old new (CaseClause.identsAll clauses)
      (CaseClause.visitsAll old binding env clauses)
      (CaseClause.visitsAll new binding env (CaseClause.spelledOutAll clauses))
  | [] => .refl _ _
  | ⟨_, list, body⟩ :: rest => by
      have bodyRespelled := Stmt.visitsAll_spelledOut (env.bindAll binding.toList) body
      have restRespelled := CaseClause.visitsAll_spelledOut binding env rest
      cases list with
      | none => exact bodyRespelled.append restRespelled
      | some list =>
          exact ((Expr.visitsAll_spelledOut env list).append bodyRespelled).append restRespelled

theorem CommClause.visitsAll_spelledOut (env : Env) : (clauses : List CommClause) →
    Respelled report old new (CommClause.identsAll clauses)
      (CommClause.visitsAll old env clauses)
      (CommClause.visitsAll new env (CommClause.spelledOutAll clauses))
  | [] => .refl _ _
  | ⟨doc, comm, body⟩ :: rest => by
      have commRespelled := Stmt.visitsOptional_spelledOut env comm
      have bodyRespelled := Stmt.visitsAll_spelledOut (env.bindAll (Stmt.bindsOf comm)) body
      have restRespelled := CommClause.visitsAll_spelledOut env rest
      rw [CommClause.spelledOutAll_cons, CommClause.visitsAll_cons, CommClause.visitsAll_cons,
        CommClause.identsAll, CommClause.collectAll_cons]
      refine .ofPlain fun plain => ?_
      rw [Stmt.bindsOf_spelledOut comm fun ident member => plain ident (by
        simp [Stmt.binder_mem_visitsOptional old env comm member])]
      exact (commRespelled.append bodyRespelled).append restRespelled

end

theorem FieldList.visitsAll_spelledOut (env : Env) : (lists : List FieldList) →
    Respelled report old new (lists.flatMap (·.idents)) (lists.flatMap (·.visits old env))
      ((lists.map (·.spelledOut)).flatMap (·.visits new env))
  | [] => .refl _ _
  | list :: rest =>
      (FieldList.visits_spelledOut env list).append (FieldList.visitsAll_spelledOut env rest)

theorem FuncDecl.lists_spelledOut (decl : FuncDecl) :
    decl.spelledOut.lists = decl.lists.map (·.spelledOut) := by
  obtain ⟨_, receiver, _, ⟨params, results⟩, _⟩ := decl
  cases receiver <;> cases results <;> rfl

theorem FuncDecl.names_spelledOut (decl : FuncDecl) :
    decl.spelledOut.lists.flatMap FieldList.names = decl.lists.flatMap FieldList.names := by
  rw [FuncDecl.lists_spelledOut, List.flatMap_map]
  exact List.flatMap_congr fun list _ => list.names_spelledOut

theorem FuncDecl.idents_lists_subset (decl : FuncDecl) :
    decl.lists.flatMap (·.idents) ++ decl.body.elim [] (·.idents) ⊆ decl.idents := by
  obtain ⟨_, receiver, name, ⟨params, results⟩, body⟩ := decl
  intro ident member
  cases receiver <;> cases results <;> cases body <;>
    simp [FuncDecl.idents, FuncDecl.collect, FuncDecl.lists, Signature.collect] at member ⊢ <;>
    grind

theorem FuncDecl.visits_spelledOut (decl : FuncDecl) :
    Respelled report old new decl.idents (decl.visits old) (decl.spelledOut.visits new) := by
  have typesRespelled : Respelled report old new _ _ _ :=
    FieldList.visitsAll_spelledOut [] decl.lists
  have namesRespelled : Respelled report old new [] _ _ :=
    .refl [] ((decl.lists.flatMap FieldList.names).map .binder)
  rw [FuncDecl.visits, FuncDecl.visits, FuncDecl.names_spelledOut, FuncDecl.lists_spelledOut]
  have bodyRespelled : Respelled report old new (decl.body.elim [] (·.idents))
      (decl.body.elim [] (·.visits old (Env.bindAll [] (decl.lists.flatMap FieldList.names))))
      (decl.spelledOut.body.elim []
        (·.visits new (Env.bindAll [] (decl.lists.flatMap FieldList.names)))) := by
    obtain ⟨_, _, _, _, body⟩ := decl
    cases body with
    | none => exact .refl _ _
    | some body => exact Block.visits_spelledOut _ body
  refine ((typesRespelled.append namesRespelled).append bodyRespelled).mono ?_
  rw [List.append_nil]
  exact decl.idents_lists_subset

theorem Decl.visits_spelledOut : (decl : Decl) →
    Respelled report old new decl.idents (decl.visits old) (decl.spelledOut.visits new)
  | .gen decl => GenDecl.visits_spelledOut false [] decl
  | .func decl => FuncDecl.visits_spelledOut decl

/-- Import declarations are spelled out as they are. -/
theorem Decl.IsImport.spelledOut {decl : Decl} (isImport : decl.IsImport) :
    decl.spelledOut = decl := by
  cases decl with
  | func decl => exact isImport.elim
  | gen decl =>
      obtain ⟨doc, keyword, grouped, specs, offset⟩ := decl
      have imported := isImport.2
      change Decl.gen ⟨doc, keyword, grouped, Spec.spelledOutAll specs, offset⟩ = _
      suffices same : Spec.spelledOutAll specs = specs by rw [same]
      clear isImport
      induction specs with
      | nil => rfl
      | cons spec rest ih =>
          obtain ⟨first, others⟩ := List.forall_mem_cons.1 imported
          cases spec with
          | imported spec => exact congrArg (Spec.imported spec :: ·) (ih others)
          | value | type => exact first.elim

/-- Spelling out the names of a file does not change the first report about what resolution
meets in it. -/
theorem File.findSome?_visits_spelledOut (packages : PackageScope.Alike old new) (file : File)
    (settled : ∀ decl ∈ file.decls, decl.IsImport ∨ ∀ ident ∈ decl.idents, ident.Settled report old)
    (plain : ∀ ident, .binder ident ∈ file.visits old → ident.IsPlain) :
    (file.spelledOut.visits new).findSome? report = (file.visits old).findSome? report := by
  obtain ⟨_, _, decls, _⟩ := file
  change ((decls.map (·.spelledOut)).flatMap (·.visits new)).findSome? report =
    (decls.flatMap (·.visits old)).findSome? report
  change ∀ ident, .binder ident ∈ decls.flatMap (·.visits old) → _ at plain
  induction decls with
  | nil => rfl
  | cons decl rest ih =>
      obtain ⟨settledFirst, settledRest⟩ := List.forall_mem_cons.1 settled
      have restSame := ih settledRest fun ident member => plain ident (List.mem_append_right _ member)
      have firstSame : (decl.spelledOut.visits new).findSome? report =
          (decl.visits old).findSome? report := by
        rcases settledFirst with isImport | settledFirst
        · rw [isImport.spelledOut, isImport.visits, isImport.visits]
        · exact decl.visits_spelledOut packages settledFirst fun ident member =>
            plain ident (List.mem_append_left _ member)
      rw [List.map_cons, List.flatMap_cons, List.flatMap_cons, List.findSome?_append,
        List.findSome?_append, firstSame, restSame]

end

/-! ## Packages -/

/-- A file imports what it imported. -/
theorem File.imports_spelledOut (file : File) : file.spelledOut.imports = file.imports := by
  rw [imports, imports, File.spelledOut, List.flatMap_map]
  refine congrArg file.decls.flatMap (funext fun decl => ?_)
  cases decl with
  | func decl => rfl
  | gen decl =>
      obtain ⟨doc, keyword, grouped, specs, offset⟩ := decl
      change (if keyword = .imports then (Spec.spelledOutAll specs).filterMap _ else []) =
        if keyword = .imports then specs.filterMap _ else []
      split
      · induction specs with
        | nil => rfl
        | cons spec rest ih =>
            rcases spec with spec | ⟨_, _, _, _, _⟩ | ⟨_, _, _, _, _⟩
            · exact congrArg (spec :: ·) ih
            · exact ih
            · exact ih
      · rfl

namespace PackageScope

/-- A declaration declares the names that it declared. -/
theorem declNames_spelledOut (decl : Decl) : declNames decl.spelledOut = declNames decl := by
  cases decl with
  | func decl =>
      obtain ⟨_, receiver, _, _, _⟩ := decl
      cases receiver <;> rfl
  | gen decl =>
      obtain ⟨doc, keyword, grouped, specs, offset⟩ := decl
      change (Spec.spelledOutAll specs).flatMap specNames = specs.flatMap specNames
      induction specs with
      | nil => rfl
      | cons spec rest ih =>
          have same : specNames spec.spelledOut = specNames spec := by
            rcases spec with _ | ⟨_, _, _, _, _⟩ | ⟨_, _, _, _, _⟩ <;> rfl
          rw [Spec.spelledOutAll_cons, List.flatMap_cons, List.flatMap_cons, same, ih]

variable {α : Type} {report : Visit → Option α} {old new : PackageScope}

theorem specTypes_spelledOut (specs : List Spec)
    (settled : ∀ ident ∈ Spec.identsAll specs, ident.Settled report old) :
    List.Forall₂ (SameType old new) (specs.flatMap specTypes)
      ((Spec.spelledOutAll specs).flatMap specTypes) := by
  induction specs with
  | nil => exact .nil
  | cons spec rest ih =>
      obtain ⟨settledFirst, settledRest⟩ := List.forall_mem_append.1 settled
      rw [Spec.spelledOutAll_cons]
      rcases spec with _ | ⟨_, _, _, _, _⟩ | ⟨_, name, _, declared, _⟩
      · exact ih settledRest
      · exact ih settledRest
      · exact .cons ⟨rfl, declared.alike_spelledOut fun ident member =>
          settledFirst ident (List.mem_cons_of_mem name member)⟩ (ih settledRest)

/-- Every type name of a declaration stands for a type alike. -/
theorem declTypes_spelledOut (decl : Decl)
    (settled : decl.IsImport ∨ ∀ ident ∈ decl.idents, ident.Settled report old) :
    List.Forall₂ (SameType old new) (declTypes decl) (declTypes decl.spelledOut) := by
  rcases settled with isImport | settled
  · rw [isImport.spelledOut]
    exact List.forall₂_same.2 fun entry _ => ⟨rfl, .same entry.2⟩
  · cases decl with
    | func decl => exact .nil
    | gen decl =>
        obtain ⟨_, _, _, specs, _⟩ := decl
        exact specTypes_spelledOut specs settled

end PackageScope

end GoMend
