import GoMend.Proofs.Formed.Expressions

/-!
# Statements are read well-formed

The statements in a header, behind a label or an else, and in front of a clause are made without
comments.  A header is read before it is known what it belongs to, and sorted out behind it.
-/

namespace GoMend

open GoMend.Parser

theorem Stmt.formed_bare {kind : StmtKind} (formed : kind.Formed source) :
    (Stmt.bare kind).Formed source .inner :=
  .inner formed rfl

namespace Grammar

variable {source : List Token} {below : Reader} [∀ production, Forward (below production)]

/-! ## Simple statements -/

theorem forms_simpleFrom (forms : below.Forms source) {first : Expr} {others : List Expr}
    (formed : first.Formed source .value)
    (othersFormed : ∀ expr ∈ others, expr.Formed source .value) :
    (simpleFrom below first others).Gives (Within source) (·.Formed source) := by
  apply Gives.after
  intro kind
  split
  · rename_i op _
    apply Gives.after
    intro _
    apply (forms_exprList forms).bind
    intro values valuesFormed
    exact .pure (.assign op (List.cons_ne_nil _ _) valuesFormed.1
      (List.forall_mem_cons.2 ⟨formed, othersFormed⟩) valuesFormed.2)
  · apply Gives.ite
    · exact .fail
    · split
      · apply Gives.after
        intro _
        apply (forms_expr forms).bind
        intro value valueFormed
        exact .pure (.send formed valueFormed)
      · apply Gives.after
        intro _
        exact .pure (.incDec true formed)
      · apply Gives.after
        intro _
        exact .pure (.incDec false formed)
      · exact .pure (.expr formed)

theorem forms_simple (forms : below.Forms source) :
    (simple below).Gives (Within source) (·.Formed source) := by
  apply (forms_expr forms).bind
  intro first formed
  apply Gives.bind (forms.each .exprTail)
  intro others othersFormed
  exact forms_simpleFrom forms formed othersFormed

/-! ## Lists of statements -/

theorem forms_block (forms : below.Forms source) :
    (block below).Gives (Within source) (·.Formed source) := by
  apply Gives.after
  intro opening
  apply Gives.bind (forms.each .stmts)
  intro stmts formed
  apply Gives.after
  intro closing
  apply Gives.after
  intro close
  exact .pure ⟨formed⟩

theorem forms_stmts (forms : below.Forms source) :
    (stmts below).Gives (Within source) fun stmts =>
      ∀ stmt ∈ stmts, stmt.Formed source .listed := by
  apply Gives.after
  intro ends
  apply Gives.ite
  · exact .pure (List.forall_mem_nil _)
  · apply Gives.after
    intro nothing
    apply Gives.ite
    · exact forms.each .stmts
    · apply Gives.after
      intro doc
      apply Gives.bind (forms.each .stmt)
      intro kind formed
      apply Gives.after
      intro comment
      have further : (do return { doc, kind, comment } :: (← below .stmts) :
          Parser (List Stmt)).Gives (Within source) fun stmts => ∀ stmt ∈ stmts,
            stmt.Formed source .listed := by
        apply Gives.bind (forms.each .stmts)
        intro rest restFormed
        exact .pure (List.forall_mem_cons.2 ⟨.listed formed, restFormed⟩)
      apply Gives.after
      intro ended
      apply Gives.ite
      · apply Gives.after
        intro _
        exact further
      · exact further

/-! ## Conditionals -/

theorem forms_conditionalHeader (forms : below.Forms source) (saved : Int) :
    (conditionalHeader below saved).Gives (Within source) fun header =>
      (∀ stmt ∈ header.1, stmt.Formed source .inner) ∧ header.2.Formed source .value := by
  apply (forms_simple forms).bind
  intro first formed
  apply Gives.after
  intro more
  apply Gives.ite
  · apply (forms_expr forms).bind
    intro condition tested
    exact .pure ⟨fun _ same => Option.some.inj same ▸ Stmt.formed_bare formed, tested⟩
  · split
    · cases formed with
      | expr tested => exact .pure ⟨by simp, tested⟩
    · exact .after fun _ => .fail

theorem forms_alternative (forms : below.Forms source) :
    (alternative below).Gives (Within source) fun alternative => ∀ stmt ∈ alternative,
      stmt.Formed source .inner ∧ stmt.kind.isAlternative = true := by
  apply Gives.after
  intro more
  apply Gives.ite
  · apply Gives.after
    intro kind
    split
    · apply Gives.bind (forms.each .conditional)
      intro other formed
      exact .pure fun _ same => Option.some.inj same ▸ ⟨Stmt.formed_bare formed.1, formed.2⟩
    · apply Gives.bind (forms.each .block)
      intro body formed
      exact .pure fun _ same => Option.some.inj same ▸ ⟨Stmt.formed_bare (.block formed), rfl⟩
    · exact .fail
  · exact .pure (by simp)

theorem forms_conditional (forms : below.Forms source) :
    (conditional below).Gives (Within source) fun kind =>
      kind.Formed source ∧ kind.isAlternative = true := by
  apply Gives.after
  intro _
  apply Gives.restored (forms_conditionalHeader forms)
  intro header headerFormed
  apply Gives.bind (forms.each .block)
  intro body bodied
  apply (forms_alternative forms).bind
  intro alternative otherwise
  apply Gives.pure
  constructor
  · exact .conditional headerFormed.1 headerFormed.2 bodied
      (fun stmt member => (otherwise stmt member).1) fun stmt member => (otherwise stmt member).2
  · rfl

/-! ## Switches -/

/-- A switch is well-formed whatever its header turns out to hold. -/
theorem switchOf?_formed {init : Option Stmt} {clauses : List CaseClause}
    {tag : Option StmtKind} {kind : StmtKind} (made : switchOf? init clauses tag = some kind)
    (begun : ∀ stmt ∈ init, stmt.Formed source .inner) (tagged : ∀ kind ∈ tag, kind.Formed source)
    (each : ∀ clause ∈ clauses, clause.Formed source) : kind.Formed source := by
  -- a guard of a type switch is a type assertion without a type, whose base is well-formed
  have subject : ∀ {subject : Expr}, (Expr.assertion subject none).Formed source .value →
      subject.Formed source .value := by
    intro subject formed
    cases formed with
    | assertion based _ _ => exact based
  cases switches_of_switchOf? made with
  | bare => exact .switch begun (by simp) each
  | value =>
      cases tagged _ rfl with
      | expr formed => exact .switch begun (fun _ same => Option.some.inj same ▸ formed) each
  | guard =>
      cases tagged _ rfl with
      | expr formed => exact .typeSwitch none begun (subject formed) each
  | binding binding =>
      cases tagged _ rfl with
      | assign _ _ _ _ values =>
          exact .typeSwitch (some binding) begun
            (subject (values _ (List.mem_singleton.2 rfl))) each

theorem forms_switchHeader (forms : below.Forms source) :
    (switchHeader below).Gives (Within source) fun header =>
      (∀ stmt ∈ header.1, stmt.Formed source .inner) ∧ ∀ kind ∈ header.2, kind.Formed source := by
  have further : ∀ first : Option StmtKind, (∀ kind ∈ first, kind.Formed source) → (do
      if ← eat .semicolon then
        let init := first.map Stmt.bare
        if ← at? .leftBrace then return (init, none)
        else return (init, some (← simple below))
      else return (none, first) : Parser (Option Stmt × Option StmtKind)).Gives (Within source)
        fun header =>
          (∀ stmt ∈ header.1, stmt.Formed source .inner) ∧
            ∀ kind ∈ header.2, kind.Formed source := by
    intro first formed
    have begun : ∀ stmt ∈ first.map Stmt.bare, stmt.Formed source .inner := by
      intro stmt member
      obtain ⟨kind, isKind, rfl⟩ := Option.map_eq_some_iff.1 member
      exact Stmt.formed_bare (formed kind isKind)
    apply Gives.after
    intro more
    apply Gives.ite
    · apply Gives.after
      intro ends
      apply Gives.ite
      · exact .pure ⟨begun, by simp⟩
      · apply (forms_simple forms).bind
        intro tag tagFormed
        exact .pure ⟨begun, fun _ same => Option.some.inj same ▸ tagFormed⟩
    · exact .pure ⟨by simp, formed⟩
  apply Gives.after
  intro ends
  apply Gives.ite
  · exact .pure ⟨by simp, by simp⟩
  · apply Gives.after
    intro nothing
    apply Gives.ite
    · exact further none (by simp)
    · apply (forms_simple forms).bind
      intro first formed
      exact further (some first) fun _ same => Option.some.inj same ▸ formed

theorem forms_switch (forms : below.Forms source) :
    (switch below).Gives (Within source) (·.Formed source) := by
  apply Gives.after
  intro _
  apply Gives.restored fun _ => forms_switchHeader forms
  intro header formed
  apply Gives.after
  intro _
  apply Gives.bind (forms.each .caseClauses)
  intro clauses each
  apply Gives.after
  intro _
  split
  · rename_i kind made
    exact .pure (switchOf?_formed made formed.1 formed.2 each)
  · exact .fail

theorem forms_caseClauses (forms : below.Forms source) :
    (caseClauses below).Gives (Within source) fun clauses =>
      ∀ clause ∈ clauses, clause.Formed source := by
  have further : ∀ (doc : List Comment) (list : Option (List Expr)),
      (∀ cases ∈ list, cases ≠ [] ∧ ∀ expr ∈ cases, expr.Formed source .value) → (do
        let _ ← expect .colon
        let body ← below .stmts
        return { doc, list, body } :: (← below .caseClauses) : Parser (List CaseClause)).Gives
          (Within source) fun clauses => ∀ clause ∈ clauses, clause.Formed source := by
    intro doc list listed
    apply Gives.after
    intro _
    apply Gives.bind (forms.each .stmts)
    intro body bodied
    apply Gives.bind (forms.each .caseClauses)
    intro rest restFormed
    have clause : CaseClause.Formed source { doc, list, body } :=
      ⟨fun cases member => (listed cases member).1, fun cases member => (listed cases member).2,
        bodied⟩
    exact .pure (List.forall_mem_cons.2 ⟨clause, restFormed⟩)
  apply Gives.after
  intro more
  apply Gives.ite
  · apply Gives.after
    intro doc
    apply Gives.after
    intro keyword
    apply Gives.ite
    · apply (forms_exprList forms).bind
      intro cases formed
      exact further doc (some cases) fun _ same => Option.some.inj same ▸ formed
    · exact further doc none (by simp)
  · exact .pure (List.forall_mem_nil _)

/-! ## Select statements -/

theorem forms_commClauses (forms : below.Forms source) :
    (commClauses below).Gives (Within source) fun clauses =>
      ∀ clause ∈ clauses, clause.Formed source := by
  have further : ∀ (doc : List Comment) (comm : Option Stmt),
      (∀ stmt ∈ comm, stmt.Formed source .inner) → (do
        let _ ← expect .colon
        let body ← below .stmts
        return { doc, comm, body } :: (← below .commClauses) : Parser (List CommClause)).Gives
          (Within source) fun clauses => ∀ clause ∈ clauses, clause.Formed source := by
    intro doc comm awaited
    apply Gives.after
    intro _
    apply Gives.bind (forms.each .stmts)
    intro body bodied
    apply Gives.bind (forms.each .commClauses)
    intro rest restFormed
    have clause : CommClause.Formed source { doc, comm, body } := ⟨awaited, bodied⟩
    exact .pure (List.forall_mem_cons.2 ⟨clause, restFormed⟩)
  apply Gives.after
  intro more
  apply Gives.ite
  · apply Gives.after
    intro doc
    apply Gives.after
    intro keyword
    apply Gives.ite
    · apply (forms_simple forms).bind
      intro comm formed
      exact further doc (some (.bare comm)) fun _ same =>
        Option.some.inj same ▸ Stmt.formed_bare formed
    · exact further doc none (by simp)
  · exact .pure (List.forall_mem_nil _)

theorem forms_select (forms : below.Forms source) :
    (select below).Gives (Within source) (·.Formed source) := by
  apply Gives.after
  intro _
  apply Gives.after
  intro _
  apply Gives.bind (forms.each .commClauses)
  intro clauses each
  apply Gives.after
  intro _
  exact .pure (.select each)

/-! ## Loops -/

/-- The range clause or statement is well-formed. -/
def LoopClause.Formed (source : List Token) : LoopClause → Prop
  | .simple kind => kind.Formed source
  | .range key value _ subject =>
      (∀ expr ∈ key, expr.Formed source .value) ∧ (∀ expr ∈ value, expr.Formed source .value) ∧
        (value.isSome = true → key.isSome = true) ∧ subject.Formed source .value

/-- The header of a loop is well-formed. -/
def LoopHeader.Formed (source : List Token) : LoopHeader → Prop
  | .range key value define subject => (LoopClause.range key value define subject).Formed source
  | .clauses init condition post =>
      (∀ stmt ∈ init, stmt.Formed source .inner) ∧ (∀ expr ∈ condition, expr.Formed source .value) ∧
        ∀ stmt ∈ post, stmt.Formed source .inner

theorem forms_loopClause (forms : below.Forms source) :
    (loopClause below).Gives (Within source) (·.Formed source) := by
  apply Gives.after
  intro keyless
  apply Gives.ite
  · apply (forms_expr forms).bind
    intro subject formed
    exact .pure ⟨by simp, by simp, by simp, formed⟩
  · apply (forms_expr forms).bind
    intro first formed
    apply Gives.bind (forms.each .exprTail)
    intro others othersFormed
    apply Gives.after
    intro assigns
    apply Gives.after
    intro second
    apply Gives.ite
    · apply Gives.after
      intro op
      apply Gives.after
      intro _
      apply Gives.ite
      · exact .fail
      · apply (forms_expr forms).bind
        intro subject subjectFormed
        apply Gives.pure
        constructor
        · exact fun _ same => Option.some.inj same ▸ formed
        · constructor
          · exact fun expr isFirst => othersFormed expr (List.mem_of_mem_head? isFirst)
          · exact ⟨fun _ => rfl, subjectFormed⟩
    · apply (forms_simpleFrom forms formed othersFormed).bind
      intro kind kindFormed
      exact .pure kindFormed

theorem forms_loopClauses (forms : below.Forms source) {init : Option Stmt}
    (begun : ∀ stmt ∈ init, stmt.Formed source .inner) :
    (loopClauses below init).Gives (Within source) (·.Formed source) := by
  have further : ∀ condition : Option Expr, (∀ expr ∈ condition, expr.Formed source .value) → (do
      let _ ← expect .semicolon
      let post ←
        if ← at? .leftBrace then pure none
        else pure (some (Stmt.bare (← simple below)))
      return .clauses init condition post : Parser LoopHeader).Gives (Within source)
        (·.Formed source) := by
    intro condition tested
    apply Gives.after
    intro _
    apply Gives.after
    intro ends
    apply Gives.ite
    · exact .pure ⟨begun, tested, by simp⟩
    · apply (forms_simple forms).bind
      intro post formed
      exact .pure ⟨begun, tested, fun _ same => Option.some.inj same ▸ Stmt.formed_bare formed⟩
  apply Gives.after
  intro missing
  apply Gives.ite
  · exact further none (by simp)
  · apply (forms_expr forms).bind
    intro condition tested
    exact further (some condition) fun _ same => Option.some.inj same ▸ tested

theorem forms_loopHeader (forms : below.Forms source) (saved : Int) :
    (loopHeader below saved).Gives (Within source) (·.Formed source) := by
  apply Gives.after
  intro endless
  apply Gives.ite
  · exact .pure ⟨by simp, by simp, by simp⟩
  · apply Gives.after
    intro unbegun
    apply Gives.ite
    · exact forms_loopClauses forms (by simp)
    · apply (forms_loopClause forms).bind
      intro clause formed
      cases clause with
      | range key value define subject => exact .pure formed
      | simple first =>
          apply Gives.after
          intro more
          apply Gives.ite
          · exact forms_loopClauses forms fun _ same =>
              Option.some.inj same ▸ Stmt.formed_bare formed
          · split
            · cases formed with
              | expr tested =>
                  exact .pure ⟨by simp, fun _ same => Option.some.inj same ▸ tested, by simp⟩
            · exact .after fun _ => .fail

theorem forms_loop (forms : below.Forms source) :
    (loop below).Gives (Within source) (·.Formed source) := by
  rw [loop_eq]
  apply Gives.after
  intro _
  apply Gives.restored (forms_loopHeader forms)
  intro header formed
  cases header with
  | range key value define subject =>
      apply Gives.bind (forms.each .block)
      intro body bodied
      exact .pure (.range define formed.1 formed.2.1 formed.2.2.1 formed.2.2.2 bodied)
  | clauses init condition post =>
      apply Gives.bind (forms.each .block)
      intro body bodied
      exact .pure (.loop formed.1 formed.2.1 formed.2.2 bodied)

end Grammar

end GoMend
