import Mathlib.Data.List.Basic
import GoMend.Proofs.Scope.Visits

/-!
# Resolution meets the visits of a file

Resolution keeps a stack of scopes and stops at the first use of a name that is declared
nowhere.  Its stack always holds exactly the names that the visits carry with them, so it
finds the first unresolved visit.
-/

namespace GoMend

namespace LocalScopes

variable {locals : LocalScopes}

/-- The names that the open scopes declare. -/
def visible (locals : LocalScopes) : Env :=
  locals.scopes.flatten

/-- Whether a scope is open. -/
def IsOpen (locals : LocalScopes) : Prop :=
  locals.scopes ≠ []

theorem contains_visible (name : String) :
    locals.visible.contains name = locals.contains name := by
  rw [Bool.eq_iff_iff]
  simp [visible, contains]

@[simp] theorem visible_push : locals.push.visible = locals.visible := rfl

theorem isOpen_push : locals.push.IsOpen := by
  simp [IsOpen, push]

/-- With a scope open, declaring a name makes it visible. -/
theorem visible_declare (isOpen : locals.IsOpen) (ident : Ident) :
    (locals.declare ident).visible = locals.visible.bind ident ∧
      (locals.declare ident).IsOpen := by
  obtain ⟨_ | ⟨scope, outer⟩⟩ := locals
  · exact absurd rfl isOpen
  · by_cases blank : ident.isBlank <;>
      simp [declare, visible, Env.bind, IsOpen, blank]

theorem visible_declareAll (isOpen : locals.IsOpen) (idents : List Ident) :
    (locals.declareAll idents).visible = locals.visible.bindAll idents ∧
      (locals.declareAll idents).IsOpen := by
  induction idents generalizing locals with
  | nil => exact ⟨rfl, isOpen⟩
  | cons ident rest ih =>
      obtain ⟨same, stillOpen⟩ := visible_declare isOpen ident
      rw [Env.bindAll, List.foldl_cons, ← same]
      exact ih stillOpen

theorem declareAll_append (left right : List Ident) :
    locals.declareAll (left ++ right) = (locals.declareAll left).declareAll right :=
  List.foldl_append

/-- Closing a scope forgets what was declared in it. -/
theorem pop_declareAll_push (idents : List Ident) :
    (locals.push.declareAll idents).pop = locals := by
  have kept : ∀ scope outer, ((⟨scope :: outer⟩ : LocalScopes).declareAll idents).scopes.tail =
      outer := by
    induction idents with
    | nil => exact fun _ _ => rfl
    | cons ident rest ih =>
        intro scope outer
        by_cases blank : ident.isBlank
        · simpa [declareAll, declare, blank] using ih scope outer
        · simpa [declareAll, declare, blank] using ih (ident.name :: scope) outer
  exact congrArg LocalScopes.mk (kept [] locals.scopes)

end LocalScopes

namespace Resolution

variable {names : FileNames} {locals middle after : LocalScopes} {visits more : List Visit}

/-- How resolution ends that meets some visits: with the first report, or with the scopes
that are open then. -/
def ending (names : FileNames) (visits : List Visit) (after : LocalScopes) :
    Except Unresolved (Unit × LocalScopes) :=
  match visits.findSome? (·.unresolved? names) with
  | some unresolved => .error unresolved
  | none => .ok ((), after)

/-- A step of resolution meets some visits and leaves some scopes open. -/
def Meets (step : Resolution) (names : FileNames) (locals : LocalScopes)
    (visits : List Visit) (after : LocalScopes) : Prop :=
  step.run locals = ending names visits after

namespace Meets

theorem skip : Meets (pure ()) names locals [] locals :=
  rfl

theorem bind {first second : Resolution} (firstMeets : Meets first names locals visits middle)
    (secondMeets : Meets second names middle more after) :
    Meets (do first; second) names locals (visits ++ more) after := by
  unfold Meets ending at *
  rw [StateT.run_bind, firstMeets, List.findSome?_append]
  cases visits.findSome? (·.unresolved? names) with
  | none => exact secondMeets
  | some unresolved => rfl

theorem get {next : LocalScopes → Resolution}
    (meets : Meets (next locals) names locals visits after) :
    Meets (do let now ← MonadState.get; next now) names locals visits after :=
  meets

theorem relist {step : Resolution} (meets : Meets step names locals visits after)
    (same : visits = more) : Meets step names locals more after :=
  same ▸ meets

/-- Places that declare a name are never reported. -/
theorem announce {step : Resolution} (idents : List Ident)
    (meets : Meets step names locals visits after) :
    Meets step names locals (idents.map .binder ++ visits) after := by
  have unreported : (idents.map Visit.binder).findSome? (·.unresolved? names) = none := by
    simp [Visit.unresolved?]
  rwa [Meets, ending, List.findSome?_append, unreported, Option.none_or]

end Meets

theorem use_meets (ident : Ident) :
    Meets (use names ident) names locals [.use ident locals.visible] locals := by
  have run : (use names ident).run locals =
      if ident.isBlank || locals.contains ident.headName || names.contains ident.headName then
        .ok ((), locals)
      else .error { name := ident.headName, offset := ident.offset } := by
    change StateT.run (ite _ _ _) locals = _
    split <;> rfl
  unfold Meets ending
  rw [run, List.findSome?_singleton, Visit.unresolved?, LocalScopes.contains_visible]
  split <;> rfl

theorem declare_meets (ident : Ident) :
    Meets (declare ident) names locals [.binder ident] (locals.declare ident) :=
  rfl

/-- A step that declares names meets nothing to be reported. -/
theorem declareAll_quiet (idents : List Ident) :
    Meets (declareAll idents) names locals [] (locals.declareAll idents) :=
  rfl

theorem declareAll_meets (idents : List Ident) :
    Meets (declareAll idents) names locals (idents.map .binder) (locals.declareAll idents) :=
  ((declareAll_quiet idents).announce idents).relist (List.append_nil _)

/-- A scope of its own leaves nothing behind. -/
theorem inScope_meets {step : Resolution} {idents : List Ident}
    (meets : Meets step names locals.push visits (locals.push.declareAll idents)) :
    Meets (inScope step) names locals visits locals := by
  have run : (inScope step).run locals =
      (step.run locals.push).map fun result => ((), result.2.pop) := by
    cases found : step.run locals.push with
    | error unresolved =>
        simp only [inScope, StateT.run_bind, StateT.run_modify, pure_bind, found]
        rfl
    | ok result =>
        simp only [inScope, StateT.run_bind, StateT.run_modify, pure_bind, found]
        rfl
  unfold Meets ending at *
  rw [run, meets]
  cases visits.findSome? (·.unresolved? names) with
  | none => simp [Except.map, LocalScopes.pop_declareAll_push]
  | some unresolved => rfl

theorem shape_eq {type hint : Option Expr} :
    shape names locals type hint = locals.visible.shape names.package type hint := by
  have declared : declaredType? names locals = locals.visible.declaredType? names.package := by
    funext name
    rw [declaredType?, Env.declaredType?, LocalScopes.contains_visible]
  rw [shape, Env.shape]
  cases type.or hint with
  | none => rfl
  | some type => rw [declared]

/-- Resolve a part if there is one. -/
def optionally {α : Type} (step : α → Resolution) : Option α → Resolution
  | some part => step part
  | none => pure ()

/-- Resolve a variable of a range clause. -/
def rangeVariable (names : FileNames) (define : Bool) : Option Expr → Resolution
  | some (.ident name) => if define then declare name else use names name
  | some expr => expr.resolve names none
  | none => pure ()

end Resolution

open Resolution

/-! ## Parts that may be absent -/

section

variable {names : FileNames}

theorem Expr.resolve_slice {hint : Option Expr} {base : Expr} {low high max : Option Expr} :
    (Expr.slice base low high max).resolve names hint = (do
      base.resolve names none
      optionally (Expr.resolve names none) low
      optionally (Expr.resolve names none) high
      optionally (Expr.resolve names none) max) := by
  cases low <;> cases high <;> cases max <;> rfl

theorem StmtKind.resolve_conditional {init alternative : Option Stmt} {condition : Expr}
    {body : Block} :
    (StmtKind.conditional init condition body alternative).resolve names = inScope (do
      optionally (Stmt.resolve names) init
      condition.resolve names none
      body.resolve names
      optionally (Stmt.resolve names) alternative) := by
  cases init <;> cases alternative <;> rfl

theorem StmtKind.resolve_switch {init : Option Stmt} {tag : Option Expr}
    {clauses : List CaseClause} :
    (StmtKind.switch init tag clauses).resolve names = inScope (do
      optionally (Stmt.resolve names) init
      optionally (Expr.resolve names none) tag
      CaseClause.resolveAll names none clauses) := by
  cases init <;> cases tag <;> rfl

theorem StmtKind.resolve_typeSwitch {init : Option Stmt} {binding : Option Ident}
    {subject : Expr} {clauses : List CaseClause} :
    (StmtKind.typeSwitch init binding subject clauses).resolve names = inScope (do
      optionally (Stmt.resolve names) init
      subject.resolve names none
      CaseClause.resolveAll names binding clauses) := by
  cases init <;> rfl

theorem StmtKind.resolve_loop {init post : Option Stmt} {condition : Option Expr}
    {body : Block} :
    (StmtKind.loop init condition post body).resolve names = inScope (do
      optionally (Stmt.resolve names) init
      optionally (Expr.resolve names none) condition
      optionally (Stmt.resolve names) post
      body.resolve names) := by
  cases init <;> cases condition <;> cases post <;> rfl

theorem StmtKind.resolve_range {key value : Option Expr} {define : Bool} {subject : Expr}
    {body : Block} :
    (StmtKind.range key value define subject body).resolve names = inScope (do
      subject.resolve names none
      rangeVariable names define key
      rangeVariable names define value
      body.resolve names) := by
  rcases key with _ | key <;> rcases value with _ | value
  · rfl
  · cases value <;> first | rfl | (cases define <;> rfl)
  · cases key <;> first | rfl | (cases define <;> rfl)
  · cases key <;> cases value <;> first | rfl | (cases define <;> rfl)

theorem CaseClause.resolveAll_cons {binding : Option Ident} {doc : List Comment}
    {list : Option (List Expr)} {body : List Stmt} {rest : List CaseClause} :
    CaseClause.resolveAll names binding (⟨doc, list, body⟩ :: rest) = (do
      inScope (do
        optionally (Expr.resolveAll names) list
        declareAll binding.toList
        Stmt.resolveAll names body)
      CaseClause.resolveAll names binding rest) := by
  cases list <;> rfl

theorem CommClause.resolveAll_cons {doc : List Comment} {comm : Option Stmt}
    {body : List Stmt} {rest : List CommClause} :
    CommClause.resolveAll names (⟨doc, comm, body⟩ :: rest) = (do
      inScope (do
        optionally (Stmt.resolve names) comm
        Stmt.resolveAll names body)
      CommClause.resolveAll names rest) := by
  cases comm <;> rfl

end

/-! ## Every production of the tree -/

section

variable (names : FileNames)

mutual

theorem Expr.resolve_meets (hint : Option Expr) (locals : LocalScopes) :
    (expr : Expr) → Meets (expr.resolve names hint) names locals
      (expr.visits names.package hint locals.visible) locals
  | .ident name => use_meets name
  | .literal _ => .skip
  | .composite type elements _ => by
      have elementsMeet : Meets (Expr.resolveElements names (shape names locals type hint) elements)
          names locals (Expr.visitsElements names.package
            (locals.visible.shape names.package type hint) locals.visible elements) locals := by
        rw [← shape_eq]
        exact Expr.resolveElements_meets _ locals elements
      cases type with
      | none => exact elementsMeet.get
      | some type => exact (Expr.resolve_meets none locals type).bind elementsMeet.get
  | .function signature body => by
      have ⟨visible, isOpen⟩ :=
        LocalScopes.visible_declareAll locals.isOpen_push signature.names
      have signatureMeets := Signature.resolve_meets locals.push signature
      have bodyMeets := Block.resolveStmts_meets _ isOpen body
      rw [visible, ← LocalScopes.declareAll_append] at bodyMeets
      exact inScope_meets (signatureMeets.bind bodyMeets)
  | .paren inner => Expr.resolve_meets none locals inner
  | .selector base _ => Expr.resolve_meets none locals base
  | .index base position =>
      (Expr.resolve_meets none locals base).bind (Expr.resolve_meets none locals position)
  | .slice base low high max => by
      rw [Expr.resolve_slice]
      refine ((Expr.resolve_meets none locals base).bind
        ((Expr.resolveOptional_meets locals low).bind
          ((Expr.resolveOptional_meets locals high).bind
            (Expr.resolveOptional_meets locals max)))).relist ?_
      simp [Expr.visits_slice]
  | .assertion base type => by
      have baseMeets := Expr.resolve_meets none locals base
      cases type with
      | none => exact baseMeets.bind .skip
      | some type => exact baseMeets.bind (Expr.resolve_meets none locals type)
  | .call callee arguments _ =>
      (Expr.resolve_meets none locals callee).bind (Expr.resolveAll_meets locals arguments)
  | .star inner => Expr.resolve_meets none locals inner
  | .unary _ operand => Expr.resolve_meets none locals operand
  | .binary left _ right =>
      (Expr.resolve_meets none locals left).bind (Expr.resolve_meets none locals right)
  | .keyValue key value =>
      (Expr.resolve_meets none locals key).bind (Expr.resolve_meets none locals value)
  | .arrayType length element =>
      (ArrayLength.resolve_meets locals length).bind (Expr.resolve_meets none locals element)
  | .mapType key value =>
      (Expr.resolve_meets none locals key).bind (Expr.resolve_meets none locals value)
  | .chanType _ element => Expr.resolve_meets none locals element
  | .funcType signature => Signature.resolveTypes_meets locals signature
  | .structType fields => FieldList.resolveTypes_meets locals fields
  | .interfaceType methods => FieldList.resolveTypes_meets locals methods
  | .variadic element => Expr.resolve_meets none locals element

theorem Expr.resolveOptional_meets (locals : LocalScopes) :
    (expr : Option Expr) → Meets (optionally (Expr.resolve names none) expr) names locals
      (expr.elim [] (·.visits names.package none locals.visible)) locals
  | none => .skip
  | some expr => Expr.resolve_meets none locals expr

theorem Expr.rangeVariable_meets (define : Bool) (locals : LocalScopes) :
    (target : Option Expr) → Meets (rangeVariable names define target) names locals
      (Expr.rangeVisits names.package define locals.visible target)
      (locals.declareAll (Expr.rangeBinds define target))
  | none => by
      cases define <;> exact .skip
  | some expr => by
      have meets := Expr.resolve_meets none locals expr
      cases expr with
      | ident name =>
          cases define with
          | true => exact declare_meets name
          | false => exact use_meets name
      | _ => cases define <;> exact meets

theorem Expr.resolveAll_meets (locals : LocalScopes) :
    (exprs : List Expr) → Meets (Expr.resolveAll names exprs) names locals
      (Expr.visitsAll names.package locals.visible exprs) locals
  | [] => .skip
  | expr :: rest =>
      (Expr.resolve_meets none locals expr).bind (Expr.resolveAll_meets locals rest)

theorem Expr.resolveAllOptional_meets (locals : LocalScopes) :
    (exprs : Option (List Expr)) → Meets (optionally (Expr.resolveAll names) exprs) names locals
      (exprs.elim [] (Expr.visitsAll names.package locals.visible)) locals
  | none => .skip
  | some exprs => Expr.resolveAll_meets locals exprs

theorem Expr.resolveElements_meets (shape : Shape) (locals : LocalScopes) :
    (exprs : List Expr) → Meets (Expr.resolveElements names shape exprs) names locals
      (Expr.visitsElements names.package shape locals.visible exprs) locals
  | [] => .skip
  | element :: rest => by
      have elementMeets := Expr.resolve_meets shape.element? locals element
      have restMeets := Expr.resolveElements_meets shape locals rest
      cases element with
      | keyValue key value =>
          have keyMeets := Expr.resolve_meets shape.key? locals key
          have valueMeets := Expr.resolve_meets shape.element? locals value
          have steps : Expr.resolveElements names shape (.keyValue key value :: rest) =
              if shape.resolvesKey key then (do
                key.resolve names shape.key?
                value.resolve names shape.element?
                Expr.resolveElements names shape rest)
              else (do
                value.resolve names shape.element?
                Expr.resolveElements names shape rest) := rfl
          rw [steps, Expr.visitsElements]
          split
          · exact (keyMeets.bind (valueMeets.bind restMeets)).relist (by simp)
          · exact valueMeets.bind restMeets
      | _ => exact elementMeets.bind restMeets

theorem Expr.resolveTargets_meets (locals : LocalScopes) (isOpen : locals.IsOpen) :
    (targets : List Expr) → Meets (Expr.resolveTargets names targets) names locals
      (Expr.visitsTargets names.package locals.visible targets)
      (locals.declareAll (Expr.bindsAll targets))
  | [] => .skip
  | target :: rest => by
      have targetMeets := Expr.resolve_meets none locals target
      have restMeets := Expr.resolveTargets_meets locals isOpen rest
      cases target with
      | ident name =>
          have ⟨visible, stillOpen⟩ := LocalScopes.visible_declare isOpen name
          have othersMeet := Expr.resolveTargets_meets (locals.declare name) stillOpen rest
          rw [visible] at othersMeet
          exact (declare_meets name).bind othersMeet
      | _ => exact targetMeets.bind restMeets

theorem ArrayLength.resolve_meets (locals : LocalScopes) :
    (length : ArrayLength) → Meets (length.resolve names) names locals
      (length.visits names.package locals.visible) locals
  | .slice => .skip
  | .inferred => .skip
  | .fixed size => Expr.resolve_meets none locals size

theorem Field.resolveTypes_meets (locals : LocalScopes) :
    (fields : List Field) → Meets (Field.resolveTypes names fields) names locals
      (Field.visitsAll names.package locals.visible fields) locals
  | [] => .skip
  | ⟨_, _, type, _, _⟩ :: rest =>
      (Expr.resolve_meets none locals type).bind (Field.resolveTypes_meets locals rest)

theorem FieldList.resolveTypes_meets (locals : LocalScopes) :
    (list : FieldList) → Meets (list.resolveTypes names) names locals
      (list.visits names.package locals.visible) locals
  | ⟨fields, _⟩ => Field.resolveTypes_meets locals fields

theorem Signature.resolveTypes_meets (locals : LocalScopes) :
    (signature : Signature) → Meets (signature.resolveTypes names) names locals
      (signature.visits names.package locals.visible) locals
  | ⟨params, none⟩ => (FieldList.resolveTypes_meets locals params).bind .skip
  | ⟨params, some results⟩ =>
      (FieldList.resolveTypes_meets locals params).bind
        (FieldList.resolveTypes_meets locals results)

theorem Signature.resolve_meets (locals : LocalScopes) :
    (signature : Signature) → Meets (signature.resolve names) names locals
      (signature.visits names.package locals.visible ++ signature.names.map .binder)
      (locals.declareAll signature.names)
  | ⟨params, none⟩ => by
      have paramsMeet := FieldList.resolveTypes_meets locals params
      have paramsNamed : Meets _ names locals _ _ := declareAll_meets params.names
      have named : Signature.names ⟨params, none⟩ = params.names := List.append_nil _
      rw [named]
      exact (paramsMeet.bind (paramsNamed.bind .skip)).relist (by simp [Signature.visits])
  | ⟨params, some results⟩ => by
      have paramsMeet := FieldList.resolveTypes_meets locals params
      have resultsMeet := FieldList.resolveTypes_meets locals results
      have paramsNamed : Meets _ names locals _ _ := declareAll_meets params.names
      have resultsNamed : Meets _ names (locals.declareAll params.names) _ _ :=
        declareAll_meets results.names
      rw [← LocalScopes.declareAll_append] at resultsNamed
      refine (paramsMeet.bind (resultsMeet.bind (paramsNamed.bind resultsNamed))).relist ?_
      simp [Signature.visits, Signature.names]

/-- At top level nothing becomes visible. -/
theorem Spec.resolveAll_meets (locals : LocalScopes) :
    (specs : List Spec) → Meets (Spec.resolveAll names false specs) names locals
      (Spec.visitsAll names.package false locals.visible specs) locals
  | [] => .skip
  | .imported _ :: rest => Spec.resolveAll_meets locals rest
  | .value ⟨_, idents, declared, values, _⟩ :: rest => by
      have valuesMeet := Expr.resolveAll_meets locals values
      have restMeets := Spec.resolveAll_meets locals rest
      cases declared with
      | none => exact (valuesMeet.bind restMeets).relist (by simp [Spec.visitsAll])
      | some declared =>
          have declaredMeets := Expr.resolve_meets none locals declared
          exact (declaredMeets.bind (valuesMeet.bind restMeets)).relist
            (by simp [Spec.visitsAll])
  | .type ⟨_, name, _, declared, _⟩ :: rest =>
      (Expr.resolve_meets none locals declared).bind (Spec.resolveAll_meets locals rest)

/-- Inside a function every entry makes its names visible. -/
theorem Spec.resolveAll_meets_local (locals : LocalScopes) (isOpen : locals.IsOpen) :
    (specs : List Spec) → Meets (Spec.resolveAll names true specs) names locals
      (Spec.visitsAll names.package true locals.visible specs)
      (locals.declareAll (specs.flatMap Spec.binds))
  | [] => .skip
  | .imported _ :: rest => Spec.resolveAll_meets_local locals isOpen rest
  | .value ⟨_, idents, declared, values, _⟩ :: rest => by
      have ⟨visible, stillOpen⟩ := LocalScopes.visible_declareAll isOpen idents
      have valuesMeet := Expr.resolveAll_meets locals values
      have named : Meets _ names locals _ _ := declareAll_meets idents
      have restMeets := Spec.resolveAll_meets_local _ stillOpen rest
      rw [visible, ← LocalScopes.declareAll_append] at restMeets
      cases declared with
      | none =>
          exact (valuesMeet.bind (named.bind restMeets)).relist (by simp [Spec.visitsAll])
      | some declared =>
          have declaredMeets := Expr.resolve_meets none locals declared
          exact (declaredMeets.bind (valuesMeet.bind (named.bind restMeets))).relist
            (by simp [Spec.visitsAll])
  | .type ⟨_, name, _, declared, _⟩ :: rest => by
      have ⟨visible, stillOpen⟩ := LocalScopes.visible_declare isOpen name
      have declaredMeets := Expr.resolve_meets none (locals.declare name) declared
      have restMeets := Spec.resolveAll_meets_local _ stillOpen rest
      rw [visible] at declaredMeets restMeets
      exact ((declare_meets name).bind (declaredMeets.bind restMeets)).relist
        (by simp [Spec.visitsAll])

theorem GenDecl.resolve_meets (locals : LocalScopes) :
    (decl : GenDecl) → Meets (decl.resolve names false) names locals
      (decl.visits names.package false locals.visible) locals
  | ⟨_, _, _, specs, _⟩ => Spec.resolveAll_meets locals specs

theorem GenDecl.resolve_meets_local (locals : LocalScopes) (isOpen : locals.IsOpen) :
    (decl : GenDecl) → Meets (decl.resolve names true) names locals
      (decl.visits names.package true locals.visible)
      (locals.declareAll (decl.specs.flatMap Spec.binds))
  | ⟨_, _, _, specs, _⟩ => Spec.resolveAll_meets_local locals isOpen specs

theorem Block.resolveStmts_meets (locals : LocalScopes) (isOpen : locals.IsOpen) :
    (block : Block) → Meets (block.resolveStmts names) names locals
      (block.visits names.package locals.visible)
      (locals.declareAll (block.stmts.flatMap Stmt.binds))
  | ⟨stmts, _⟩ => Stmt.resolveAll_meets locals isOpen stmts

theorem Block.resolve_meets (locals : LocalScopes) :
    (block : Block) → Meets (block.resolve names) names locals
      (block.visits names.package locals.visible) locals
  | ⟨stmts, _⟩ => inScope_meets (Stmt.resolveAll_meets locals.push locals.isOpen_push stmts)

theorem Stmt.resolveAll_meets (locals : LocalScopes) (isOpen : locals.IsOpen) :
    (stmts : List Stmt) → Meets (Stmt.resolveAll names stmts) names locals
      (Stmt.visitsAll names.package locals.visible stmts)
      (locals.declareAll (stmts.flatMap Stmt.binds))
  | [] => .skip
  | stmt :: rest => by
      have ⟨visible, stillOpen⟩ := LocalScopes.visible_declareAll isOpen stmt.binds
      have restMeets := Stmt.resolveAll_meets _ stillOpen rest
      rw [visible, ← LocalScopes.declareAll_append] at restMeets
      exact (Stmt.resolve_meets locals isOpen stmt).bind restMeets

theorem Stmt.resolve_meets (locals : LocalScopes) (isOpen : locals.IsOpen) :
    (stmt : Stmt) → Meets (stmt.resolve names) names locals
      (stmt.visits names.package locals.visible) (locals.declareAll stmt.binds)
  | ⟨_, kind, _⟩ => StmtKind.resolve_meets locals isOpen kind

theorem Stmt.resolveOptional_meets (locals : LocalScopes) (isOpen : locals.IsOpen) :
    (stmt : Option Stmt) → Meets (optionally (Stmt.resolve names) stmt) names locals
      (stmt.elim [] (·.visits names.package locals.visible))
      (locals.declareAll (Stmt.bindsOf stmt))
  | none => .skip
  | some stmt => Stmt.resolve_meets locals isOpen stmt

theorem StmtKind.resolve_meets (locals : LocalScopes) (isOpen : locals.IsOpen) :
    (kind : StmtKind) → Meets (kind.resolve names) names locals
      (kind.visits names.package locals.visible) (locals.declareAll kind.binds)
  | .decl decl => GenDecl.resolve_meets_local locals isOpen decl
  | .empty => .skip
  | .branch _ _ => .skip
  | .labeled _ stmt => Stmt.resolve_meets locals isOpen stmt
  | .expr expr => Expr.resolve_meets none locals expr
  | .go call => Expr.resolve_meets none locals call
  | .defer call => Expr.resolve_meets none locals call
  | .send channel value =>
      (Expr.resolve_meets none locals channel).bind (Expr.resolve_meets none locals value)
  | .incDec operand _ => Expr.resolve_meets none locals operand
  | .assign targets op values => by
      have valuesMeet := Expr.resolveAll_meets locals values
      have targetsMeet := Expr.resolveAll_meets locals targets
      have targetsDeclare := Expr.resolveTargets_meets locals isOpen targets
      by_cases define : op = .define
      · subst define
        exact valuesMeet.bind targetsDeclare
      · have steps : (StmtKind.assign targets op values).resolve names = (do
            Expr.resolveAll names targets
            Expr.resolveAll names values) := if_neg define
        have listed : (StmtKind.assign targets op values).visits names.package locals.visible =
            Expr.visitsAll names.package locals.visible targets ++
              Expr.visitsAll names.package locals.visible values := if_neg define
        have named : (StmtKind.assign targets op values).binds = [] := if_neg define
        rw [steps, listed, named]
        exact targetsMeet.bind valuesMeet
  | .ret results => Expr.resolveAll_meets locals results
  | .block block => Block.resolve_meets locals block
  | .conditional init condition body alternative => by
      have ⟨visible, isOpen⟩ :=
        LocalScopes.visible_declareAll locals.isOpen_push (Stmt.bindsOf init)
      have initMeets := Stmt.resolveOptional_meets locals.push locals.isOpen_push init
      have conditionMeets :=
        Expr.resolve_meets none (locals.push.declareAll (Stmt.bindsOf init)) condition
      have bodyMeets := Block.resolve_meets (locals.push.declareAll (Stmt.bindsOf init)) body
      have alternativeMeets := Stmt.resolveOptional_meets _ isOpen alternative
      rw [← LocalScopes.declareAll_append] at alternativeMeets
      rw [StmtKind.resolve_conditional]
      refine (inScope_meets (initMeets.bind
        (conditionMeets.bind (bodyMeets.bind alternativeMeets)))).relist ?_
      rw [visible]
      simp [StmtKind.visits_conditional]
  | .switch init tag clauses => by
      have ⟨visible, _⟩ :=
        LocalScopes.visible_declareAll locals.isOpen_push (Stmt.bindsOf init)
      have initMeets := Stmt.resolveOptional_meets locals.push locals.isOpen_push init
      have tagMeets :=
        Expr.resolveOptional_meets (locals.push.declareAll (Stmt.bindsOf init)) tag
      have clausesMeet :=
        CaseClause.resolveAll_meets none (locals.push.declareAll (Stmt.bindsOf init)) clauses
      rw [StmtKind.resolve_switch]
      refine (inScope_meets (initMeets.bind (tagMeets.bind clausesMeet))).relist ?_
      rw [visible]
      simp [StmtKind.visits_switch]
  | .typeSwitch init binding subject clauses => by
      have ⟨visible, _⟩ :=
        LocalScopes.visible_declareAll locals.isOpen_push (Stmt.bindsOf init)
      have initMeets := Stmt.resolveOptional_meets locals.push locals.isOpen_push init
      have subjectMeets :=
        Expr.resolve_meets none (locals.push.declareAll (Stmt.bindsOf init)) subject
      have clausesMeet := (CaseClause.resolveAll_meets binding
        (locals.push.declareAll (Stmt.bindsOf init)) clauses).announce binding.toList
      rw [StmtKind.resolve_typeSwitch]
      refine (inScope_meets (initMeets.bind (subjectMeets.bind clausesMeet))).relist ?_
      rw [visible]
      simp [StmtKind.visits_typeSwitch]
  | .select clauses => CommClause.resolveAll_meets locals clauses
  | .loop init condition post body => by
      have ⟨visible, isOpen⟩ :=
        LocalScopes.visible_declareAll locals.isOpen_push (Stmt.bindsOf init)
      have ⟨bodyVisible, _⟩ := LocalScopes.visible_declareAll isOpen (Stmt.bindsOf post)
      have initMeets := Stmt.resolveOptional_meets locals.push locals.isOpen_push init
      have conditionMeets :=
        Expr.resolveOptional_meets (locals.push.declareAll (Stmt.bindsOf init)) condition
      have postMeets := Stmt.resolveOptional_meets _ isOpen post
      have bodyMeets := Block.resolve_meets
        ((locals.push.declareAll (Stmt.bindsOf init)).declareAll (Stmt.bindsOf post)) body
      rw [bodyVisible, ← LocalScopes.declareAll_append] at bodyMeets
      rw [← LocalScopes.declareAll_append] at postMeets
      rw [StmtKind.resolve_loop]
      refine (inScope_meets (initMeets.bind
        (conditionMeets.bind (postMeets.bind bodyMeets)))).relist ?_
      rw [visible]
      simp [StmtKind.visits_loop]
  | .range key value define subject body => by
      have ⟨keyVisible, keyOpen⟩ :=
        LocalScopes.visible_declareAll locals.isOpen_push (Expr.rangeBinds define key)
      have ⟨valueVisible, _⟩ :=
        LocalScopes.visible_declareAll keyOpen (Expr.rangeBinds define value)
      have subjectMeets := Expr.resolve_meets none locals.push subject
      have keyMeets := Expr.rangeVariable_meets define locals.push key
      have valueMeets := Expr.rangeVariable_meets define
        (locals.push.declareAll (Expr.rangeBinds define key)) value
      have bodyMeets := Block.resolve_meets
        ((locals.push.declareAll (Expr.rangeBinds define key)).declareAll
          (Expr.rangeBinds define value)) body
      rw [valueVisible, ← LocalScopes.declareAll_append] at bodyMeets
      rw [← LocalScopes.declareAll_append] at valueMeets
      rw [StmtKind.resolve_range, StmtKind.visits_range]
      refine (inScope_meets (subjectMeets.bind
        (keyMeets.bind (valueMeets.bind bodyMeets)))).relist ?_
      simp [keyVisible]

theorem CaseClause.resolveAll_meets (binding : Option Ident) (locals : LocalScopes) :
    (clauses : List CaseClause) → Meets (CaseClause.resolveAll names binding clauses) names
      locals (CaseClause.visitsAll names.package binding locals.visible clauses) locals
  | [] => .skip
  | ⟨doc, list, body⟩ :: rest => by
      have ⟨visible, isOpen⟩ :=
        LocalScopes.visible_declareAll locals.isOpen_push binding.toList
      have listMeets := Expr.resolveAllOptional_meets locals.push list
      have named : Meets _ names locals.push _ _ := declareAll_quiet binding.toList
      have bodyMeets := Stmt.resolveAll_meets _ isOpen body
      have restMeets := CaseClause.resolveAll_meets binding locals rest
      rw [visible, ← LocalScopes.declareAll_append] at bodyMeets
      rw [CaseClause.resolveAll_cons]
      refine ((inScope_meets (listMeets.bind (named.bind bodyMeets))).bind restMeets).relist ?_
      simp [CaseClause.visitsAll_cons]

theorem CommClause.resolveAll_meets (locals : LocalScopes) :
    (clauses : List CommClause) → Meets (CommClause.resolveAll names clauses) names locals
      (CommClause.visitsAll names.package locals.visible clauses) locals
  | [] => .skip
  | ⟨doc, comm, body⟩ :: rest => by
      have ⟨visible, isOpen⟩ :=
        LocalScopes.visible_declareAll locals.isOpen_push (Stmt.bindsOf comm)
      have commMeets := Stmt.resolveOptional_meets locals.push locals.isOpen_push comm
      have bodyMeets := Stmt.resolveAll_meets _ isOpen body
      have restMeets := CommClause.resolveAll_meets locals rest
      rw [visible, ← LocalScopes.declareAll_append] at bodyMeets
      rw [CommClause.resolveAll_cons]
      refine ((inScope_meets (commMeets.bind bodyMeets)).bind restMeets).relist ?_
      simp [CommClause.visitsAll_cons]

end

end

/-! ## Declarations and files -/

namespace Resolution.Meets

variable {names : FileNames} {locals : LocalScopes} {α : Type}

/-- A step for every part of a list, each of which leaves the scopes as they are. -/
theorem forEach {step : α → Resolution} {visits : α → List Visit}
    (meets : ∀ part, Meets (step part) names locals (visits part) locals) :
    ∀ parts : List α, Meets (parts.forM step) names locals (parts.flatMap visits) locals
  | [] => .skip
  | part :: rest => (meets part).bind (forEach meets rest)

end Resolution.Meets

theorem FuncDecl.resolve_eq (names : FileNames) (decl : FuncDecl) :
    decl.resolve names = inScope (do
      decl.lists.forM (FieldList.resolveTypes names)
      declareAll (decl.lists.flatMap FieldList.names)
      optionally (Block.resolveStmts names) decl.body) := by
  obtain ⟨_, _, _, _, _ | _⟩ := decl <;> rfl

/-- A function resolves in a scope of its own. -/
theorem FuncDecl.resolve_meets (names : FileNames) (locals : LocalScopes)
    (outside : locals.visible = []) (decl : FuncDecl) :
    Meets (decl.resolve names) names locals (decl.visits names.package) locals := by
  have ⟨visible, isOpen⟩ :=
    LocalScopes.visible_declareAll locals.isOpen_push (decl.lists.flatMap FieldList.names)
  have typesMeet := Meets.forEach (FieldList.resolveTypes_meets names locals.push) decl.lists
  have named : Meets _ names locals.push _ _ :=
    declareAll_meets (decl.lists.flatMap FieldList.names)
  rw [FuncDecl.resolve_eq, FuncDecl.visits]
  cases decl.body with
  | none =>
      refine (inScope_meets (typesMeet.bind (named.bind .skip))).relist ?_
      simp [outside]
  | some body =>
      have bodyMeets := Block.resolveStmts_meets names _ isOpen body
      rw [visible, ← LocalScopes.declareAll_append] at bodyMeets
      refine (inScope_meets (typesMeet.bind (named.bind bodyMeets))).relist ?_
      simp [outside]

theorem Decl.resolve_meets (names : FileNames) :
    ∀ decl : Decl, Meets (decl.resolve names) names .empty (decl.visits names.package) .empty
  | .gen decl => GenDecl.resolve_meets names .empty decl
  | .func decl => FuncDecl.resolve_meets names .empty rfl decl

/-- Resolution of a file without a dot import reports its first unresolved visit. -/
theorem File.firstUnresolved?_eq (package : PackageScope) (file : File)
    (closed : (FileScope.ofFile file).hasDotImport = false) :
    file.firstUnresolved? package =
      (file.visits package).findSome? (·.unresolved? ⟨package, .ofFile file⟩) := by
  have meets := Meets.forEach (Decl.resolve_meets ⟨package, .ofFile file⟩) file.decls
  unfold Meets ending at meets
  rw [firstUnresolved?, closed, visits, meets]
  cases (file.decls.flatMap (·.visits package)).findSome?
    (·.unresolved? ⟨package, .ofFile file⟩) <;> rfl

end GoMend
