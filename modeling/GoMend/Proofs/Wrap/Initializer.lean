import GoMend.Proofs.Unit.Bodies
import GoMend.Wrap.Wrapper

/-!
# The value that a constructor builds

A normalized constructor builds one expression of its old body.  Which one depends on the
first return of the body alone: a return that hands out no name builds its value itself,
and one that hands out a name leaves it to the first assignment of the body, whichever
name that assigns to.
-/

namespace GoMend

namespace Wrapper

variable {wrapper : Wrapper} {body : Block} {init : Expr} {decl normal : FuncDecl}

/-- How a body builds its value. -/
inductive Builds (body : Block) : Expr → Prop where
  /-- The return hands out no name, and its first result that consists of one operator
  stands before a literal, which loses the managed field. -/
  | returned {before after elements kept : List Expr} {op : UnaryOp} {type : Option Expr}
      {multiline : Bool} :
      body.FirstReturns (before ++ .unary op (.composite type elements multiline) :: after) →
      (∀ result ∈ before ++ after, result.ident? = none) →
      (∀ earlier ∈ before, earlier.unary? = none) →
      Expr.WithoutKey managedField elements kept →
      Builds body (.unary op (.composite type kept multiline))
  /-- The return hands out a name, and the first assignment has the value. -/
  | assigned {results targets values : List Expr} {name : Ident} {assignOp : AssignOp}
      {op : UnaryOp} {operand : Expr} :
      body.FirstReturns results → .ident name ∈ results →
      body.FirstAssigns targets assignOp (.unary op operand :: values) →
      Builds body (.unary op operand)

/-- The initializer of a body whose first return hands out no name. -/
theorem builds_of_no_name {results : List Expr} (returns : body.FirstReturns results)
    (noName : Expr.firstIdent? results = none) (built : initializer body = .ok init) :
    Builds body init := by
  rw [initializer, Block.firstReturn?_eq_some_iff.2 returns] at built
  simp only [noName] at built
  have plain : ∀ result ∈ results, result.ident? = none := List.findSome?_eq_none_iff.1 noName
  split at built
  case h_1 => cases built
  case h_2 op type elements multiline first =>
    cases built
    obtain ⟨before, result, after, rfl, isUnary, earlier⟩ := List.findSome?_eq_some_iff.1 first
    obtain rfl := Expr.unary?_eq_some_iff.1 isUnary
    apply Builds.returned returns _ earlier (Expr.dropKey_withoutKey managedField elements)
    intro other member
    apply plain other
    rcases List.mem_append.1 member with inBefore | inAfter
    · exact List.mem_append_left _ inBefore
    · exact List.mem_append_right _ (List.mem_cons_of_mem _ inAfter)
  case h_3 => cases built

/-- The initializer of a body whose first return hands out a name. -/
theorem builds_of_name {results : List Expr} {name : Ident}
    (returns : body.FirstReturns results) (named : Expr.firstIdent? results = some name)
    (built : initializer body = .ok init) : Builds body init := by
  rw [initializer, Block.firstReturn?_eq_some_iff.2 returns] at built
  simp only [named] at built
  obtain ⟨result, member, isName⟩ := List.exists_of_findSome?_eq_some named
  obtain rfl := Expr.ident?_eq_some_iff.1 isName
  split at built
  case h_1 => cases built
  case h_2 targets assignOp op operand values first =>
    cases built
    exact .assigned returns member (Block.firstAssignment?_eq_some_iff.1 first)
  case h_3 => cases built

/-- A body has an initializer exactly if it builds one. -/
theorem initializer_eq_ok_iff : initializer body = .ok init ↔ Builds body init := by
  constructor
  · intro built
    cases first : body.firstReturn? with
    | none => simp [initializer, first] at built
    | some results =>
        have returns := Block.firstReturn?_eq_some_iff.1 first
        cases named : Expr.firstIdent? results with
        | none => exact builds_of_no_name returns named built
        | some name => exact builds_of_name returns named built
  · intro builds
    cases builds with
    | @returned before after elements kept op type multiline returns plain earlier without =>
        have noName : Expr.firstIdent?
            (before ++ .unary op (.composite type elements multiline) :: after) = none := by
          apply List.findSome?_eq_none_iff.2
          intro result member
          rcases List.mem_append.1 member with inBefore | inRest
          · exact plain result (List.mem_append_left _ inBefore)
          · rcases List.mem_cons.1 inRest with rfl | inAfter
            · rfl
            · exact plain result (List.mem_append_right _ inAfter)
        have unary : Expr.firstUnary?
            (before ++ .unary op (.composite type elements multiline) :: after) =
              some (op, .composite type elements multiline) :=
          List.findSome?_eq_some_iff.2 ⟨before, _, after, rfl, rfl, earlier⟩
        simp [initializer, Block.firstReturn?_eq_some_iff.2 returns, noName, unary,
          without.eq_dropKey]
    | @assigned results targets values name assignOp op operand returns member first =>
        cases named : Expr.firstIdent? results with
        | none => cases List.findSome?_eq_none_iff.1 named _ member
        | some other =>
            simp [initializer, Block.firstReturn?_eq_some_iff.2 returns, named,
              Block.firstAssignment?_eq_some_iff.2 first]

/-- Normalizing replaces the body by one that wraps the value which the old body builds,
and changes nothing else. -/
theorem normalizeConstructor_eq_ok_iff :
    wrapper.normalizeConstructor decl = .ok normal ↔
      ∃ present init, decl.body = some present ∧ Builds present init ∧
        normal = decl.withBody (wrapper.body init) := by
  constructor
  · intro rewritten
    unfold normalizeConstructor FuncDecl.demandBody at rewritten
    cases hasBody : decl.body with
    | none => simp [hasBody, bind, Except.bind] at rewritten
    | some present =>
        cases built : initializer present with
        | error fault => simp [hasBody, built, bind, Except.bind, throw, throwThe,
            MonadExceptOf.throw] at rewritten
        | ok init =>
            simp only [hasBody, built, bind, Except.bind, pure, Except.pure,
              Except.ok.injEq] at rewritten
            exact ⟨present, init, rfl, initializer_eq_ok_iff.1 built, rewritten.symm⟩
  · rintro ⟨present, init, hasBody, builds, rfl⟩
    simp [normalizeConstructor, FuncDecl.demandBody, hasBody, initializer_eq_ok_iff.2 builds,
      bind, Except.bind, pure, Except.pure]

/-- What a normalized constructor builds, by the results of the first return of its old
body.  A literal behind one operator, with no name among the other results, is built as it
stands but for the first element under the managed key.  If a name is among the results,
the first value of the first assignment is built; that is the value which the body assigns
to the returned name provided that the first assignment begins with this name. -/
theorem normalizeConstructor_initializer
    (rewritten : wrapper.normalizeConstructor decl = .ok normal) :
    ∃ present init results, decl.body = some present ∧ present.FirstReturns results ∧
      normal = decl.withBody (wrapper.body init) ∧
      (∀ op type elements multiline others,
        results = .unary op (.composite type elements multiline) :: others →
        (∀ other ∈ others, ∀ name, other ≠ .ident name) →
        ∃ kept, Expr.WithoutKey managedField elements kept ∧
          init = .unary op (.composite type kept multiline)) ∧
      (∀ name, .ident name ∈ results →
        ∃ targets assignOp op operand values, init = .unary op operand ∧
          present.FirstAssigns targets assignOp (init :: values) ∧
          ∀ target others, targets = .ident target :: others → target.name = name.name →
            present.Assigns name.name init) := by
  obtain ⟨present, init, hasBody, builds, rfl⟩ := normalizeConstructor_eq_ok_iff.1 rewritten
  cases builds with
  | @returned before after elements kept op type multiline returns plain earlier without =>
      refine ⟨present, _, _, hasBody, returns, rfl, ?_, ?_⟩
      · intro firstOp firstType firstElements firstMultiline others same _
        cases before with
        | nil =>
            cases same
            exact ⟨kept, without, rfl⟩
        | cons first before =>
            cases same
            cases earlier _ List.mem_cons_self
      · intro name member
        rcases List.mem_append.1 member with inBefore | inRest
        · cases plain _ (List.mem_append_left _ inBefore)
        · rcases List.mem_cons.1 inRest with same | inAfter
          · cases same
          · cases plain _ (List.mem_append_right _ inAfter)
  | @assigned results targets values name assignOp op operand returns member first =>
      refine ⟨present, _, results, hasBody, returns, rfl, ?_, ?_⟩
      · rintro firstOp firstType firstElements firstMultiline others rfl noName
        rcases List.mem_cons.1 member with same | inOthers
        · cases same
        · cases noName _ inOthers name rfl
      · intro returned _
        refine ⟨targets, assignOp, op, operand, values, rfl, first, ?_⟩
        rintro target others rfl same
        exact same ▸ first.assigns

/-- A constructor with the given statements. -/
def constructorOf (stmts : List Stmt) : FuncDecl :=
  { doc := []
    receiver := none
    name := .ofName "NewFooAggregation"
    signature := ⟨⟨[], []⟩, some ⟨[.embedded (.star (.ofName "FooAggregation"))], []⟩⟩
    body := some ⟨stmts, []⟩ }

/-- The address of a literal without elements. -/
def addressOf (type : String) : Expr :=
  .unary .address (.composite (some (.ofName type)) [] false)

/-- The first assignment assigns to the name that is returned. -/
theorem normalizeConstructor_initializer_named :
    ∃ decl normal present init,
      Wrapper.notInjectable.normalizeConstructor decl = .ok normal ∧
        decl.body = some present ∧ normal = decl.withBody (notInjectable.body init) ∧
        present.Assigns "agg" init := by
  have rewritten : Wrapper.notInjectable.normalizeConstructor
      (constructorOf [.assignTo "agg" .define (addressOf "FooAggregation"),
        .returning [.ident (.ofName "agg")]]) = .ok _ := rfl
  obtain ⟨present, init, results, hasBody, returns, same, _, named⟩ :=
    normalizeConstructor_initializer rewritten
  refine ⟨_, _, present, init, rewritten, hasBody, same, ?_⟩
  cases hasBody
  cases Block.firstReturn?_eq_some_iff.2 returns
  obtain ⟨_, _, _, _, _, _, first, assigned⟩ := named (.ofName "agg") List.mem_cons_self
  cases Block.firstAssignment?_eq_some_iff.2 first
  exact assigned (.ofName "agg") [] rfl rfl

/-- A first assignment to another name decides what is built, against the name that is
returned as well as against a literal that is returned beside a name. -/
theorem normalizeConstructor_ignores_targets :
    ∃ (named literal : FuncDecl) (namedBody literalBody : Block) (name : Ident)
        (elements : List Expr) (type : Option Expr) (multiline : Bool) (others : List Expr)
        (init : Expr),
      named.body = some namedBody ∧ namedBody.FirstReturns [.ident name] ∧
        Wrapper.notInjectable.normalizeConstructor named =
          .ok (named.withBody (notInjectable.body init)) ∧
        ¬namedBody.Assigns name.name init ∧
      literal.body = some literalBody ∧
        literalBody.FirstReturns (.unary .address (.composite type elements multiline) :: others) ∧
        Wrapper.notInjectable.normalizeConstructor literal =
          .ok (literal.withBody (notInjectable.body init)) ∧
        ∀ kept, init ≠ .unary .address (.composite type kept multiline) := by
  have apart : Expr.ofName "Options" ≠ .ofName "FooAggregation" := by
    intro same
    exact absurd (congrArg Expr.ident? same) (by decide)
  refine ⟨constructorOf [.assignTo "opts" .define (addressOf "Options"),
      .assignTo "agg" .define (addressOf "FooAggregation"), .returning [.ident (.ofName "agg")]],
    constructorOf [.assignTo "opts" .define (addressOf "Options"),
      .returning [addressOf "FooAggregation", .ident (.ofName "nil")]],
    _, _, .ofName "agg", [], some (.ofName "FooAggregation"), false, [.ident (.ofName "nil")],
    addressOf "Options", rfl, ?_, rfl, ?_, rfl, ?_, rfl, ?_⟩
  · exact Block.firstReturn?_eq_some_iff.1 rfl
  · rintro ⟨stmt, member, targets, op, values, assignment, target, named, inZip⟩
    simp only [List.mem_cons, List.not_mem_nil, or_false] at member
    rcases member with rfl | rfl | rfl
    · cases assignment
      -- `opts` is not the returned name
      simp only [List.zip_cons_cons, List.zip_nil_left, List.mem_singleton,
        Prod.mk.injEq] at inZip
      obtain rfl : target = .ofName "opts" := Expr.ident.inj inZip.1
      exact absurd named (by decide)
    · cases assignment
      -- what is assigned to `agg` is another value
      simp only [List.zip_cons_cons, List.zip_nil_left, List.mem_singleton, Prod.mk.injEq,
        addressOf, Expr.unary.injEq, Expr.composite.injEq, Option.some.injEq] at inZip
      exact apart inZip.2.2.1
    · cases assignment
  · exact Block.firstReturn?_eq_some_iff.1 rfl
  · intro kept same
    simp only [addressOf, Expr.unary.injEq, Expr.composite.injEq, Option.some.injEq] at same
    exact apart same.2.1

end Wrapper

end GoMend
