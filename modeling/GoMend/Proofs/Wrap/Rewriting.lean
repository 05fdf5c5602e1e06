import GoMend.Proofs.Wrap.Hygiene

/-!
# Constructors rewritten in place

A constructor is brought into its form by edits of the function itself: the literal that it
returns loses the managed field where it stands, the body is wiped, and three statements are
written.  The edits of the body begin only when all is found that they need, so a constructor that
has not the right shape is left as it was.
-/

namespace GoMend

/-- Edits of a function in its own place.  What was edited before a fault stays edited. -/
abbrev Rewrite := EStateM Fault FuncDecl

namespace Rewrite

/-- Change the body, if there is one. -/
def mapBody (change : Block → Block) : Rewrite Unit :=
  modify fun decl => { decl with body := decl.body.map change }

/-- The body, which a function that is declared elsewhere lacks. -/
def body : Rewrite Block := do
  match (← get).demandBody with
  | .ok present => return present
  | .error fault => throw fault

theorem body_eq_demandBody (decl : FuncDecl) :
    body decl = match decl.demandBody with
      | .ok present => .ok present decl
      | .error fault => .error fault decl := by
  change (match decl.demandBody with
    | .ok present => pure present
    | .error fault => throw fault : Rewrite Block) decl = _
  cases decl.demandBody <;> rfl

/-- Give up on a constructor that has not the right shape. -/
def refuse {α : Type} (fault : ConstructorFault) : Rewrite α := do
  throw (.constructorShape (← get).name.name fault)

end Rewrite

namespace Wrapper

open Rewrite (mapBody refuse)

/-- Find the expression that the body builds.  A literal that is returned loses the managed field
before the expression around it is taken. -/
def takeInitializer : Rewrite Expr := do
  let present ← Rewrite.body
  match present.firstReturn? with
  | none => refuse .noReturn
  | some results =>
      match Expr.firstIdent? results with
      | some _ =>
          match present.firstAssignment? with
          | none => refuse .noAssignment
          | some (_, _, .unary op operand :: _) => return .unary op operand
          | some _ => refuse .assignmentNotUnary
      | none =>
          match Expr.firstUnary? results with
          | none => refuse .resultNotUnary
          | some (op, operand) =>
              match operand.elements? with
              | none => refuse .operandNotComposite
              | some _ =>
                  let init := .unary op (operand.mapElements (Expr.dropKey managedField))
                  mapBody (·.mapFirstReturn (Expr.mapFirstUnary fun _ _ => init))
                  return init

/-- Bring a constructor into its form in its own place. -/
def rewrite (wrapper : Wrapper) : Rewrite Unit := do
  let init ← takeInitializer
  mapBody fun _ => .blank
  mapBody (·.append (.assignTo binding .define init))
  mapBody (·.append (.assignTo (Ident.qualify binding wrapper.name) .assign
    (.callOf wrapper.constructor [binding])))
  mapBody (·.append (.returning [.ofName binding]))

variable {wrapper : Wrapper} {decl normal : FuncDecl} {present : Block} {init : Expr}

/-- What is taken is the initializer of the body, which has been edited at most.  Where there is
none, nothing has been edited. -/
theorem takeInitializer_run (hasBody : decl.body = some present) :
    match initializer present with
    | .ok init => ∃ edited, takeInitializer decl = .ok init (decl.withBody edited)
    | .error fault =>
        takeInitializer decl = .error (.constructorShape decl.name.name fault) decl := by
  have run : ∀ rest : Block → Rewrite Expr, (Rewrite.body >>= rest) decl = rest present decl := by
    intro rest
    have found : Rewrite.body decl = .ok present decl := by
      rw [Rewrite.body_eq_demandBody, FuncDecl.demandBody, hasBody]
    simp only [bind, EStateM.bind, found]
  have same : decl.withBody present = decl := by
    rw [FuncDecl.withBody, ← hasBody]
  rw [takeInitializer, run]
  unfold initializer
  cases present.firstReturn? with
  | none => rfl
  | some results =>
      dsimp only
      cases Expr.firstIdent? results with
      | some name =>
          dsimp only
          rcases present.firstAssignment? with _ | ⟨_, _, _ | ⟨value, _⟩⟩
          · rfl
          · rfl
          · cases value with
            | unary op operand => exact ⟨present, by rw [same]; rfl⟩
            | _ => rfl
      | none =>
          dsimp only
          cases Expr.firstUnary? results with
          | none => rfl
          | some unary =>
              obtain ⟨op, operand⟩ := unary
              cases operand with
              | composite type elements multiline =>
                  have edited : ∀ change : Block → Block,
                      { decl with body := decl.body.map change } =
                        decl.withBody (change present) := by
                    intro change
                    rw [FuncDecl.withBody, hasBody, Option.map_some]
                  exact ⟨_, congrArg (EStateM.Result.ok _) (edited _)⟩
              | _ => rfl

/-- Rewriting a constructor in its own place comes to what normalizing it gives, and leaves it as
it was where normalizing fails. -/
theorem rewrite_eq :
    wrapper.rewrite decl =
      match wrapper.normalizeConstructor decl with
      | .ok normal => .ok () normal
      | .error fault => .error fault decl := by
  have run : wrapper.rewrite decl = match takeInitializer decl with
      | .ok init edited => .ok () { edited with body := edited.body.map fun _ => wrapper.body init }
      | .error fault final => .error fault final := by
    simp only [rewrite, bind, EStateM.bind]
    cases takeInitializer decl with
    | error fault final => rfl
    | ok init edited =>
        obtain ⟨doc, receiver, name, signature, body⟩ := edited
        cases body <;> rfl
  rw [run]
  cases hasBody : decl.body with
  | none =>
      have nothing : decl.demandBody = .error (.missingBody decl.name.name) := by
        rw [FuncDecl.demandBody, hasBody]
      have lacking : Rewrite.body decl = .error (.missingBody decl.name.name) decl := by
        rw [Rewrite.body_eq_demandBody, nothing]
      have taken : takeInitializer decl = .error (.missingBody decl.name.name) decl := by
        simp only [takeInitializer, bind, EStateM.bind, lacking]
      simp [taken, normalizeConstructor, nothing, bind, Except.bind]
  | some present =>
      have found : decl.demandBody = .ok present := by
        rw [FuncDecl.demandBody, hasBody]
      have taken := takeInitializer_run hasBody
      cases built : initializer present with
      | ok init =>
          simp only [built] at taken
          obtain ⟨edited, taken⟩ := taken
          simp [taken, normalizeConstructor, found, built, bind, Except.bind, pure, Except.pure,
            FuncDecl.withBody]
      | error fault =>
          simp only [built] at taken
          simp [taken, normalizeConstructor, found, built, bind, Except.bind, throw, throwThe,
            MonadExceptOf.throw]

theorem rewrite_eq_ok_iff :
    wrapper.rewrite decl = .ok () normal ↔ wrapper.normalizeConstructor decl = .ok normal := by
  rw [rewrite_eq]
  cases wrapper.normalizeConstructor decl <;> simp

theorem rewrite_eq_error_iff {fault : Fault} {final : FuncDecl} :
    wrapper.rewrite decl = .error fault final ↔
      wrapper.normalizeConstructor decl = .error fault ∧ final = decl := by
  rw [rewrite_eq]
  cases wrapper.normalizeConstructor decl <;> simp [eq_comm]

/-- Which bodies build a value. -/
theorem exists_builds_iff :
    (∃ init, Builds present init) ↔ ∃ results, present.FirstReturns results ∧
      ((∃ name, .ident name ∈ results) ∧
          (∃ targets assignOp op operand values,
            present.FirstAssigns targets assignOp (.unary op operand :: values)) ∨
        (∀ name, .ident name ∉ results) ∧
          ∃ before op type elements multiline after,
            results = before ++ .unary op (.composite type elements multiline) :: after ∧
              ∀ earlier ∈ before, earlier.unary? = none) := by
  have unnamed : ∀ {expr : Expr}, expr.ident? = none ↔ ∀ name, expr ≠ .ident name := by
    intro expr
    cases expr <;> simp [Expr.ident?]
  constructor
  · rintro ⟨init, builds⟩
    cases builds with
    | @returned before after elements kept op type multiline returns plain earlier without =>
        refine ⟨_, returns, .inr ⟨fun name member => ?_, _, _, _, _, _, _, rfl, earlier⟩⟩
        rcases List.mem_append.1 member with inBefore | inRest
        · exact unnamed.1 (plain _ (List.mem_append_left _ inBefore)) name rfl
        · rcases List.mem_cons.1 inRest with isUnary | inAfter
          · cases isUnary
          · exact unnamed.1 (plain _ (List.mem_append_right _ inAfter)) name rfl
    | assigned returns member first =>
        exact ⟨_, returns, .inl ⟨⟨_, member⟩, _, _, _, _, _, first⟩⟩
  · rintro ⟨results, returns, ⟨⟨name, member⟩, _, _, _, _, _, first⟩ |
      ⟨plain, before, op, type, elements, multiline, after, rfl, earlier⟩⟩
    · exact ⟨_, .assigned returns member first⟩
    · refine ⟨_, .returned returns (fun result member => unnamed.2 ?_) earlier
        (Expr.dropKey_withoutKey managedField elements)⟩
      rintro name rfl
      apply plain name
      rcases List.mem_append.1 member with inBefore | inAfter
      · exact List.mem_append_left _ inBefore
      · exact List.mem_append_right _ (List.mem_cons_of_mem _ inAfter)

/-- What stops a constructor from being normalized is a missing body or the shape of the body. -/
theorem normalizeConstructor_eq_error {fault : Fault}
    (failed : wrapper.normalizeConstructor decl = .error fault) :
    decl.body = none ∧ fault = .missingBody decl.name.name ∨
      decl.body.isSome ∧ ∃ reason, fault = .constructorShape decl.name.name reason := by
  unfold normalizeConstructor FuncDecl.demandBody at failed
  cases hasBody : decl.body with
  | none =>
      simp only [hasBody, bind, Except.bind, Except.error.injEq] at failed
      exact .inl ⟨rfl, failed.symm⟩
  | some present =>
      refine .inr ⟨rfl, ?_⟩
      cases built : initializer present with
      | ok init => simp [hasBody, built, bind, Except.bind, pure, Except.pure] at failed
      | error reason =>
          simp only [hasBody, built, bind, Except.bind, throw, throwThe, MonadExceptOf.throw,
            Except.error.injEq] at failed
          exact ⟨reason, failed.symm⟩

/-- When a constructor is rewritten, and what becomes of it.  It needs a body whose first return
either hands out a name, while the first value of the first assignment has one operator in front,
or hands out no name and a literal behind its first operator.  Then the body becomes three
statements without comments, and the function keeps everything else; otherwise it is refused for
its missing body or its shape and keeps everything. -/
theorem rewrite_exact (wrapper : Wrapper) (decl : FuncDecl) :
    ((∃ normal, wrapper.rewrite decl = .ok () normal) ↔
      ∃ present results, decl.body = some present ∧ present.FirstReturns results ∧
        ((∃ name, .ident name ∈ results) ∧
            (∃ targets assignOp op operand values,
              present.FirstAssigns targets assignOp (.unary op operand :: values)) ∨
          (∀ name, .ident name ∉ results) ∧
            ∃ before op type elements multiline after,
              results = before ++ .unary op (.composite type elements multiline) :: after ∧
                ∀ earlier ∈ before, earlier.unary? = none)) ∧
    (∀ normal, wrapper.rewrite decl = .ok () normal →
      wrapper.normalizeConstructor decl = .ok normal ∧
      ∃ present init, decl.body = some present ∧ Builds present init ∧
        normal =
          { decl with
            body := some
              { stmts :=
                  [.bare (.assign [.ident (.ofName binding)] .define [init]),
                    .bare (.assign
                      [.selector (.ident (.ofName binding)) (.ofName wrapper.name)] .assign
                      [.call (.ident (.ofName wrapper.constructor))
                        [.ident (.ofName binding)] false]),
                    .bare (.ret [.ident (.ofName binding)])]
                closing := [] } }) ∧
    ∀ fault final, wrapper.rewrite decl = .error fault final →
      wrapper.normalizeConstructor decl = .error fault ∧ final = decl ∧
      (decl.body = none ∧ fault = .missingBody decl.name.name ∨
        decl.body.isSome ∧ ∃ reason, fault = .constructorShape decl.name.name reason) := by
  simp only [rewrite_eq_ok_iff, rewrite_eq_error_iff]
  refine ⟨⟨?_, ?_⟩, ?_, ?_⟩
  · rintro ⟨normal, normalized⟩
    obtain ⟨present, init, hasBody, builds, -⟩ := normalizeConstructor_eq_ok_iff.1 normalized
    obtain ⟨results, returns, shape⟩ := exists_builds_iff.1 ⟨init, builds⟩
    exact ⟨present, results, hasBody, returns, shape⟩
  · rintro ⟨present, results, hasBody, returns, shape⟩
    obtain ⟨init, builds⟩ := exists_builds_iff.2 ⟨results, returns, shape⟩
    exact ⟨_, normalizeConstructor_eq_ok_iff.2 ⟨present, init, hasBody, builds, rfl⟩⟩
  · intro normal normalized
    obtain ⟨present, init, hasBody, builds, same⟩ := normalizeConstructor_eq_ok_iff.1 normalized
    refine ⟨normalized, present, init, hasBody, builds, ?_⟩
    rw [same, FuncDecl.withBody, body_eq]
  · rintro fault final ⟨failed, same⟩
    exact ⟨failed, same, normalizeConstructor_eq_error failed⟩

end Wrapper

end GoMend
