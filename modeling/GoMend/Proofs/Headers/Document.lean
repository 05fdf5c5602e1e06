import GoMend.Proofs.Headers.Expressions

/-!
# Files keep their blocks

A header is read at the level below zero, and the block behind it at the level of the statement.
What was read in the header is sorted out behind it and stays the same expressions.  So every
production gives what is kept where it stands if those below it do, and all of them do, however
deeply they may nest.
-/

namespace GoMend

open GoMend.Parser

namespace Grammar

variable {below : Reader} {level : Int}

/-! ## Simple statements -/

theorem keeps_simpleFrom (keeps : below.Keeps) (inner : -1 ≤ level) {first : Expr}
    {others : List Expr} (kept : first.Kept (.ofLevel level))
    (othersKept : ∀ expr ∈ others, expr.Kept (.ofLevel level)) :
    (simpleFrom below first others).GivesAt level (·.Kept (.ofLevel level)) := by
  apply GivesAt.after
  intro kind
  split
  · rename_i op _
    apply GivesAt.after
    intro _
    apply (keeps_exprList keeps inner).bind
    intro values valuesKept
    exact .pure (.assign op (List.forall_mem_cons.2 ⟨kept, othersKept⟩) valuesKept)
  · apply GivesAt.ite
    · exact .fail
    · split
      · apply GivesAt.after
        intro _
        apply (keeps_expr keeps inner).bind
        intro value valueKept
        exact .pure (.send kept valueKept)
      · apply GivesAt.after
        intro _
        exact .pure (.incDec true kept)
      · apply GivesAt.after
        intro _
        exact .pure (.incDec false kept)
      · exact .pure (.expr kept)

theorem keeps_simple (keeps : below.Keeps) (inner : -1 ≤ level) :
    (simple below).GivesAt level (·.Kept (.ofLevel level)) := by
  apply (keeps_expr keeps inner).bind
  intro first kept
  apply GivesAt.bind (keeps.each .exprTail level inner)
  intro others othersKept
  exact keeps_simpleFrom keeps inner kept othersKept

/-! ## Lists of statements -/

theorem keeps_block (keeps : below.Keeps) (inner : -1 ≤ level) :
    (block below).GivesAt level (·.Kept (.ofLevel level)) := by
  apply GivesAt.after
  intro opening
  apply GivesAt.bind (keeps.each .stmts level inner)
  intro stmts kept
  apply GivesAt.after
  intro closing
  apply GivesAt.after
  intro close
  exact .pure ⟨kept⟩

theorem keeps_stmts (keeps : below.Keeps) (inner : -1 ≤ level) :
    (stmts below).GivesAt level fun stmts => ∀ stmt ∈ stmts, stmt.Kept (.ofLevel level) := by
  apply GivesAt.after
  intro ends
  apply GivesAt.ite
  · exact .pure (List.forall_mem_nil _)
  · apply GivesAt.after
    intro nothing
    apply GivesAt.ite
    · exact keeps.each .stmts level inner
    · apply GivesAt.after
      intro doc
      apply GivesAt.bind (keeps.each .stmt level inner)
      intro kind kept
      apply GivesAt.after
      intro comment
      have further : (do return { doc, kind, comment } :: (← below .stmts) :
          Parser (List Stmt)).GivesAt level fun stmts =>
            ∀ stmt ∈ stmts, stmt.Kept (.ofLevel level) := by
        apply GivesAt.bind (keeps.each .stmts level inner)
        intro rest restKept
        exact .pure (List.forall_mem_cons.2 ⟨⟨kept⟩, restKept⟩)
      apply GivesAt.after
      intro ended
      apply GivesAt.ite
      · apply GivesAt.after
        intro _
        exact further
      · exact further

/-! ## Conditionals -/

theorem keeps_conditionalHeader (keeps : below.Keeps) (saved : Int) :
    (conditionalHeader below saved).GivesAt (-1) fun header =>
      (∀ stmt ∈ header.1, stmt.Kept .header) ∧ header.2.Kept .header := by
  apply (keeps_simple keeps (by decide)).bind
  intro first kept
  apply GivesAt.after
  intro more
  apply GivesAt.ite
  · apply (keeps_expr keeps (by decide)).bind
    intro condition tested
    exact .pure ⟨fun _ same => Option.some.inj same ▸ ⟨kept⟩, tested⟩
  · split
    · cases kept with
      | expr tested => exact .pure ⟨by simp, tested⟩
    · exact .stop

theorem keeps_alternative (keeps : below.Keeps) (inner : -1 ≤ level) :
    (alternative below).GivesAt level fun alternative =>
      ∀ stmt ∈ alternative, stmt.Kept (.ofLevel level) := by
  apply GivesAt.after
  intro more
  apply GivesAt.ite
  · apply GivesAt.after
    intro kind
    split
    · apply GivesAt.bind (keeps.each .conditional level inner)
      intro other kept
      exact .pure fun _ same => Option.some.inj same ▸ ⟨kept⟩
    · apply GivesAt.bind (keeps.each .block level inner)
      intro body kept
      exact .pure fun _ same => Option.some.inj same ▸ ⟨.block kept⟩
    · exact .fail
  · exact .pure (by simp)

theorem keeps_conditional (keeps : below.Keeps) (inner : -1 ≤ level) :
    (conditional below).GivesAt level (·.Kept (.ofLevel level)) := by
  apply GivesAt.after
  intro _
  apply GivesAt.restored (keeps_conditionalHeader keeps level)
  intro header headed
  apply GivesAt.bind (keeps.each .block level inner)
  intro body bodied
  apply (keeps_alternative keeps inner).bind
  intro alternative otherwise
  exact .pure (.conditional headed.1 headed.2 bodied otherwise)

/-! ## Switches -/

/-- A switch holds in its header what was read there, whatever it turns out to be. -/
theorem switchOf?_keeps {site : Site} {init : Option Stmt} {clauses : List CaseClause}
    {tag : Option StmtKind} {kind : StmtKind} (made : switchOf? init clauses tag = some kind)
    (begun : ∀ stmt ∈ init, stmt.Kept .header) (tagged : ∀ kind ∈ tag, kind.Kept .header)
    (each : ∀ clause ∈ clauses, clause.Kept site) : kind.Kept site := by
  -- a guard of a type switch is a type assertion without a type, whose base is in the header
  have subject : ∀ {subject : Expr}, (Expr.assertion subject none).Kept .header →
      subject.Kept .header := by
    intro subject kept
    cases kept with
    | assertion based _ => exact based
  cases switches_of_switchOf? made with
  | bare => exact .switch begun (by simp) each
  | value =>
      cases tagged _ rfl with
      | expr kept => exact .switch begun (fun _ same => Option.some.inj same ▸ kept) each
  | guard =>
      cases tagged _ rfl with
      | expr kept => exact .typeSwitch none begun (subject kept) each
  | binding binding =>
      cases tagged _ rfl with
      | assign _ _ values =>
          exact .typeSwitch (some binding) begun
            (subject (values _ (List.mem_singleton.2 rfl))) each

theorem keeps_switchHeader (keeps : below.Keeps) :
    (switchHeader below).GivesAt (-1) fun header =>
      (∀ stmt ∈ header.1, stmt.Kept .header) ∧ ∀ kind ∈ header.2, kind.Kept .header := by
  have further : ∀ first : Option StmtKind, (∀ kind ∈ first, kind.Kept .header) → (do
      if ← eat .semicolon then
        let init := first.map Stmt.bare
        if ← at? .leftBrace then return (init, none)
        else return (init, some (← simple below))
      else return (none, first) : Parser (Option Stmt × Option StmtKind)).GivesAt (-1)
        fun header =>
          (∀ stmt ∈ header.1, stmt.Kept .header) ∧ ∀ kind ∈ header.2, kind.Kept .header := by
    intro first kept
    have begun : ∀ stmt ∈ first.map Stmt.bare, stmt.Kept .header := by
      intro stmt member
      obtain ⟨kind, isKind, rfl⟩ := Option.map_eq_some_iff.1 member
      exact ⟨kept kind isKind⟩
    apply GivesAt.after
    intro more
    apply GivesAt.ite
    · apply GivesAt.after
      intro ends
      apply GivesAt.ite
      · exact .pure ⟨begun, by simp⟩
      · apply (keeps_simple keeps (by decide)).bind
        intro tag tagKept
        exact .pure ⟨begun, fun _ same => Option.some.inj same ▸ tagKept⟩
    · exact .pure ⟨by simp, kept⟩
  apply GivesAt.after
  intro ends
  apply GivesAt.ite
  · exact .pure ⟨by simp, by simp⟩
  · apply GivesAt.after
    intro nothing
    apply GivesAt.ite
    · exact further none (by simp)
    · apply (keeps_simple keeps (by decide)).bind
      intro first kept
      exact further (some first) fun _ same => Option.some.inj same ▸ kept

theorem keeps_switch (keeps : below.Keeps) (inner : -1 ≤ level) :
    (switch below).GivesAt level (·.Kept (.ofLevel level)) := by
  apply GivesAt.after
  intro _
  apply GivesAt.restored (keeps_switchHeader keeps)
  intro header headed
  apply GivesAt.after
  intro _
  apply GivesAt.bind (keeps.each .caseClauses level inner)
  intro clauses each
  apply GivesAt.after
  intro _
  split
  · rename_i kind made
    exact .pure (switchOf?_keeps made headed.1 headed.2 each)
  · exact .fail

theorem keeps_caseClauses (keeps : below.Keeps) (inner : -1 ≤ level) :
    (caseClauses below).GivesAt level fun clauses =>
      ∀ clause ∈ clauses, clause.Kept (.ofLevel level) := by
  have further : ∀ (doc : List Comment) (list : Option (List Expr)),
      (∀ cases ∈ list, ∀ expr ∈ cases, expr.Kept (.ofLevel level)) → (do
        let _ ← expect .colon
        let body ← below .stmts
        return { doc, list, body } :: (← below .caseClauses) : Parser (List CaseClause)).GivesAt
          level fun clauses => ∀ clause ∈ clauses, clause.Kept (.ofLevel level) := by
    intro doc list listed
    apply GivesAt.after
    intro _
    apply GivesAt.bind (keeps.each .stmts level inner)
    intro body bodied
    apply GivesAt.bind (keeps.each .caseClauses level inner)
    intro rest restKept
    exact .pure (List.forall_mem_cons.2 ⟨⟨listed, bodied⟩, restKept⟩)
  apply GivesAt.after
  intro more
  apply GivesAt.ite
  · apply GivesAt.after
    intro doc
    apply GivesAt.after
    intro keyword
    apply GivesAt.ite
    · apply (keeps_exprList keeps inner).bind
      intro cases kept
      exact further doc (some cases) fun _ same => Option.some.inj same ▸ kept
    · exact further doc none (by simp)
  · exact .pure (List.forall_mem_nil _)

/-! ## Select statements -/

theorem keeps_commClauses (keeps : below.Keeps) (inner : -1 ≤ level) :
    (commClauses below).GivesAt level fun clauses =>
      ∀ clause ∈ clauses, clause.Kept (.ofLevel level) := by
  have further : ∀ (doc : List Comment) (comm : Option Stmt),
      (∀ stmt ∈ comm, stmt.Kept (.ofLevel level)) → (do
        let _ ← expect .colon
        let body ← below .stmts
        return { doc, comm, body } :: (← below .commClauses) : Parser (List CommClause)).GivesAt
          level fun clauses => ∀ clause ∈ clauses, clause.Kept (.ofLevel level) := by
    intro doc comm awaited
    apply GivesAt.after
    intro _
    apply GivesAt.bind (keeps.each .stmts level inner)
    intro body bodied
    apply GivesAt.bind (keeps.each .commClauses level inner)
    intro rest restKept
    exact .pure (List.forall_mem_cons.2 ⟨⟨awaited, bodied⟩, restKept⟩)
  apply GivesAt.after
  intro more
  apply GivesAt.ite
  · apply GivesAt.after
    intro doc
    apply GivesAt.after
    intro keyword
    apply GivesAt.ite
    · apply (keeps_simple keeps inner).bind
      intro comm kept
      exact further doc (some (.bare comm)) fun _ same => Option.some.inj same ▸ ⟨kept⟩
    · exact further doc none (by simp)
  · exact .pure (List.forall_mem_nil _)

theorem keeps_select (keeps : below.Keeps) (inner : -1 ≤ level) :
    (select below).GivesAt level (·.Kept (.ofLevel level)) := by
  apply GivesAt.after
  intro _
  apply GivesAt.after
  intro _
  apply GivesAt.bind (keeps.each .commClauses level inner)
  intro clauses each
  apply GivesAt.after
  intro _
  exact .pure (.select each)

/-! ## Loops -/

/-- What the range clause or statement holds is kept in a header. -/
def LoopClause.Kept : LoopClause → Prop
  | .simple kind => kind.Kept .header
  | .range key value _ subject =>
      (∀ expr ∈ key, expr.Kept .header) ∧ (∀ expr ∈ value, expr.Kept .header) ∧
        subject.Kept .header

/-- What the header of a loop holds is kept there. -/
def LoopHeader.Kept : LoopHeader → Prop
  | .range key value define subject => (LoopClause.range key value define subject).Kept
  | .clauses init condition post =>
      (∀ stmt ∈ init, stmt.Kept .header) ∧ (∀ expr ∈ condition, expr.Kept .header) ∧
        ∀ stmt ∈ post, stmt.Kept .header

theorem keeps_loopClause (keeps : below.Keeps) :
    (loopClause below).GivesAt (-1) LoopClause.Kept := by
  apply GivesAt.after
  intro keyless
  apply GivesAt.ite
  · apply (keeps_expr keeps (by decide)).bind
    intro subject kept
    exact .pure ⟨by simp, by simp, kept⟩
  · apply (keeps_expr keeps (by decide)).bind
    intro first kept
    apply GivesAt.bind (keeps.each .exprTail (-1) (by decide))
    intro others othersKept
    apply GivesAt.after
    intro assigns
    apply GivesAt.after
    intro second
    apply GivesAt.ite
    · apply GivesAt.after
      intro op
      apply GivesAt.after
      intro _
      apply GivesAt.ite
      · exact .fail
      · apply (keeps_expr keeps (by decide)).bind
        intro subject subjectKept
        apply GivesAt.pure
        constructor
        · exact fun _ same => Option.some.inj same ▸ kept
        · constructor
          · exact fun expr isFirst => othersKept expr (List.mem_of_mem_head? isFirst)
          · exact subjectKept
    · apply (keeps_simpleFrom keeps (by decide) kept othersKept).bind
      intro kind kindKept
      exact .pure kindKept

theorem keeps_loopClauses (keeps : below.Keeps) {init : Option Stmt}
    (begun : ∀ stmt ∈ init, stmt.Kept .header) :
    (loopClauses below init).GivesAt (-1) LoopHeader.Kept := by
  have further : ∀ condition : Option Expr, (∀ expr ∈ condition, expr.Kept .header) → (do
      let _ ← expect .semicolon
      let post ←
        if ← at? .leftBrace then pure none
        else pure (some (Stmt.bare (← simple below)))
      return .clauses init condition post : Parser LoopHeader).GivesAt (-1) LoopHeader.Kept := by
    intro condition tested
    apply GivesAt.after
    intro _
    apply GivesAt.after
    intro ends
    apply GivesAt.ite
    · exact .pure ⟨begun, tested, by simp⟩
    · apply (keeps_simple keeps (by decide)).bind
      intro post kept
      exact .pure ⟨begun, tested, fun _ same => Option.some.inj same ▸ ⟨kept⟩⟩
  apply GivesAt.after
  intro missing
  apply GivesAt.ite
  · exact further none (by simp)
  · apply (keeps_expr keeps (by decide)).bind
    intro condition tested
    exact further (some condition) fun _ same => Option.some.inj same ▸ tested

theorem keeps_loopHeader (keeps : below.Keeps) (saved : Int) :
    (loopHeader below saved).GivesAt (-1) LoopHeader.Kept := by
  apply GivesAt.after
  intro endless
  apply GivesAt.ite
  · exact .pure ⟨by simp, by simp, by simp⟩
  · apply GivesAt.after
    intro unbegun
    apply GivesAt.ite
    · exact keeps_loopClauses keeps (by simp)
    · apply (keeps_loopClause keeps).bind
      intro clause kept
      cases clause with
      | range key value define subject => exact .pure kept
      | simple first =>
          apply GivesAt.after
          intro more
          apply GivesAt.ite
          · exact keeps_loopClauses keeps fun _ same => Option.some.inj same ▸ ⟨kept⟩
          · split
            · cases kept with
              | expr tested =>
                  exact .pure ⟨by simp, fun _ same => Option.some.inj same ▸ tested, by simp⟩
            · exact .stop

theorem keeps_loop (keeps : below.Keeps) (inner : -1 ≤ level) :
    (loop below).GivesAt level (·.Kept (.ofLevel level)) := by
  rw [loop_eq]
  apply GivesAt.after
  intro _
  apply GivesAt.restored (keeps_loopHeader keeps level)
  intro header headed
  cases header with
  | range key value define subject =>
      apply GivesAt.bind (keeps.each .block level inner)
      intro body bodied
      exact .pure (.range define headed.1 headed.2.1 headed.2.2 bodied)
  | clauses init condition post =>
      apply GivesAt.bind (keeps.each .block level inner)
      intro body bodied
      exact .pure (.loop headed.1 headed.2.1 headed.2.2 bodied)

/-! ## Declarations -/

theorem keeps_identTail (keeps : below.Keeps) (inner : -1 ≤ level) :
    (identTail below).GivesAt level fun _ => True := by
  apply GivesAt.after
  intro more
  apply GivesAt.ite
  · apply GivesAt.after
    intro name
    apply GivesAt.bind (keeps.each .identTail level inner)
    intro rest _
    exact .pure trivial
  · exact .pure trivial

theorem keeps_valueSpec (keeps : below.Keeps) (inner : -1 ≤ level) (doc : List Comment) :
    (valueSpec below doc).GivesAt level fun spec => (Spec.value spec).Kept (.ofLevel level) := by
  apply (keeps_identList keeps inner).bind
  intro names _
  have ended : ∀ (type : Option Expr) (values : List Expr),
      (∀ declared ∈ type, declared.Kept (.ofLevel level)) →
        (∀ value ∈ values, value.Kept (.ofLevel level)) →
        (do return { doc, names, type, values, comment := ← takeTrailing } :
          Parser ValueSpec).GivesAt level fun spec =>
            (Spec.value spec).Kept (.ofLevel level) := by
    intro type values typed kept
    apply GivesAt.after
    intro comment
    exact .pure (.value typed kept)
  have further : ∀ type : Option Expr, (∀ declared ∈ type, declared.Kept (.ofLevel level)) → (do
      let values ←
        if ← eat .eq then exprList below
        else pure []
      return { doc, names, type, values, comment := ← takeTrailing } : Parser ValueSpec).GivesAt
        level fun spec => (Spec.value spec).Kept (.ofLevel level) := by
    intro type typed
    apply GivesAt.after
    intro more
    apply GivesAt.ite
    · apply (keeps_exprList keeps inner).bind
      intro values kept
      exact ended type values typed kept
    · exact ended type [] typed (List.forall_mem_nil _)
  apply GivesAt.after
  intro untyped
  apply GivesAt.ite
  · exact further none (by simp)
  · apply GivesAt.bind (keeps.each .type level inner)
    intro type typed
    exact further (some type) fun _ same => Option.some.inj same ▸ typed _

theorem keeps_typeSpec (keeps : below.Keeps) (inner : -1 ≤ level) (doc : List Comment) :
    (typeSpec below doc).GivesAt level fun spec => (Spec.type spec).Kept (.ofLevel level) := by
  apply GivesAt.after
  intro name
  apply GivesAt.after
  intro isAlias
  apply GivesAt.bind (keeps.each .type level inner)
  intro type typed
  apply GivesAt.after
  intro comment
  exact .pure (.type (typed _))

theorem keeps_spec (keeps : below.Keeps) (inner : -1 ≤ level) (keyword : DeclKeyword)
    (doc : List Comment) :
    (spec below keyword doc).GivesAt level (·.Kept (.ofLevel level)) := by
  cases keyword with
  | imports =>
      apply GivesAt.after
      intro spec
      exact .pure (.imported spec)
  | consts =>
      apply (keeps_valueSpec keeps inner doc).bind
      intro spec kept
      exact .pure kept
  | vars =>
      apply (keeps_valueSpec keeps inner doc).bind
      intro spec kept
      exact .pure kept
  | types =>
      apply (keeps_typeSpec keeps inner doc).bind
      intro spec kept
      exact .pure kept

theorem keeps_specs (keeps : below.Keeps) (inner : -1 ≤ level) (keyword : DeclKeyword) :
    (specs below keyword).GivesAt level fun specs =>
      ∀ spec ∈ specs, spec.Kept (.ofLevel level) := by
  apply GivesAt.after
  intro ends
  apply GivesAt.ite
  · exact .pure (List.forall_mem_nil _)
  · apply GivesAt.after
    intro doc
    apply (keeps_spec keeps inner keyword doc).bind
    intro first kept
    apply GivesAt.after
    intro _
    apply GivesAt.bind (keeps.each (.specs keyword) level inner)
    intro rest restKept
    exact .pure (List.forall_mem_cons.2 ⟨kept, restKept⟩)

theorem keeps_genDecl (keeps : below.Keeps) (inner : -1 ≤ level) (keyword : DeclKeyword)
    (doc : List Comment) :
    (genDecl below keyword doc).GivesAt level (·.Kept (.ofLevel level)) := by
  apply GivesAt.after
  intro word
  apply GivesAt.after
  intro grouped
  apply GivesAt.ite
  · apply GivesAt.bind (keeps.each (.specs keyword) level inner)
    intro specs each
    apply GivesAt.after
    intro _
    exact .pure ⟨each⟩
  · apply (keeps_spec keeps inner keyword []).bind
    intro only kept
    exact .pure ⟨List.forall_mem_singleton.2 kept⟩

theorem keeps_funcDecl (keeps : below.Keeps) (inner : -1 ≤ level) (doc : List Comment) :
    (funcDecl below doc).GivesAt level (·.Kept) := by
  have further : ∀ receiver : Option FieldList, (∀ list ∈ receiver, list.Kept .free) → (do
      let name ← ident
      let signature ← signature below
      let body ←
        if ← at? .leftBrace then pure (some (← functionBody below))
        else pure none
      return { doc, receiver, name, signature, body } : Parser FuncDecl).GivesAt level
        (·.Kept) := by
    intro receiver received
    apply GivesAt.after
    intro name
    apply (keeps_signature keeps inner).bind
    intro signature typed
    apply GivesAt.after
    intro bodied
    apply GivesAt.ite
    · apply (keeps_functionBody keeps).bind
      intro body kept
      exact .pure ⟨received, typed .free, fun _ same => Option.some.inj same ▸ kept⟩
    · exact .pure ⟨received, typed .free, by simp⟩
  apply GivesAt.after
  intro _
  apply GivesAt.after
  intro isMethod
  apply GivesAt.ite
  · apply (keeps_parameters keeps).bind
    intro list kept
    exact further (some list) fun _ same => Option.some.inj same ▸ kept .free
  · exact further none (by simp)

/-! ## Statements that declare -/

theorem keeps_localDecl (keeps : below.Keeps) (inner : -1 ≤ level) (keyword : DeclKeyword) :
    (do return .decl (← genDecl below keyword []) : Parser StmtKind).GivesAt level
      (·.Kept (.ofLevel level)) := by
  apply (keeps_genDecl keeps inner keyword []).bind
  intro decl kept
  exact .pure (.decl kept)

theorem keeps_labeled (keeps : below.Keeps) (inner : -1 ≤ level) :
    (do
      let label ← ident
      let _ ← bump
      if ← at? .rightBrace then return .labeled label (.bare .empty)
      else return .labeled label (.bare (← below .stmt)) : Parser StmtKind).GivesAt level
        (·.Kept (.ofLevel level)) := by
  apply GivesAt.after
  intro label
  apply GivesAt.after
  intro _
  apply GivesAt.after
  intro ends
  apply GivesAt.ite
  · exact .pure (.labeled label ⟨.empty⟩)
  · apply GivesAt.bind (keeps.each .stmt level inner)
    intro kind kept
    exact .pure (.labeled label ⟨kept⟩)

theorem keeps_branch {site : Site} :
    (do
      let keyword := branchKeyword (← bump).kind
      if ← at? .identifier then return .branch keyword (some (← ident))
      else return .branch keyword none : Parser StmtKind).GivesAt level (·.Kept site) := by
  apply GivesAt.after
  intro word
  apply GivesAt.after
  intro labeled
  apply GivesAt.ite
  · apply GivesAt.after
    intro label
    exact .pure (.branch _ _)
  · exact .pure (.branch _ _)

theorem keeps_stmt (keeps : below.Keeps) (inner : -1 ≤ level) :
    (stmt below).GivesAt level (·.Kept (.ofLevel level)) := by
  apply GivesAt.after
  intro kind
  split
  · exact keeps_localDecl keeps inner .consts
  · exact keeps_localDecl keeps inner .vars
  · exact keeps_localDecl keeps inner .types
  · apply GivesAt.after
    intro _
    apply (keeps_expr keeps inner).bind
    intro call kept
    exact .pure (.go kept)
  · apply GivesAt.after
    intro _
    apply (keeps_expr keeps inner).bind
    intro call kept
    exact .pure (.defer kept)
  · apply GivesAt.after
    intro _
    apply GivesAt.after
    intro ends
    apply GivesAt.ite
    · exact .pure (.ret (List.forall_mem_nil _))
    · apply (keeps_exprList keeps inner).bind
      intro results kept
      exact .pure (.ret kept)
  · exact keeps_branch
  · exact keeps_branch
  · exact keeps_branch
  · apply GivesAt.after
    intro _
    exact .pure (.branch _ _)
  · apply GivesAt.bind (keeps.each .block level inner)
    intro body kept
    exact .pure (.block kept)
  · exact keeps.each .conditional level inner
  · exact keeps_switch keeps inner
  · exact keeps_select keeps inner
  · exact keeps_loop keeps inner
  · apply GivesAt.after
    intro second
    apply GivesAt.ite
    · exact keeps_labeled keeps inner
    · exact keeps_simple keeps inner

/-! ## Files -/

theorem keeps_imports (keeps : below.Keeps) (inner : -1 ≤ level) :
    (imports below).GivesAt level fun decls => ∀ decl ∈ decls, decl.Kept (.ofLevel level) := by
  apply GivesAt.after
  intro more
  apply GivesAt.ite
  · apply GivesAt.after
    intro doc
    apply (keeps_genDecl keeps inner .imports doc).bind
    intro first kept
    apply GivesAt.after
    intro _
    apply GivesAt.bind (keeps.each .imports level inner)
    intro rest restKept
    have own : (Decl.gen first).Kept (.ofLevel level) := kept
    exact .pure (List.forall_mem_cons.2 ⟨own, restKept⟩)
  · exact .pure (List.forall_mem_nil _)

theorem keeps_decl (keeps : below.Keeps) (inner : -1 ≤ level) (doc : List Comment) :
    (decl below doc).GivesAt level (·.Kept (.ofLevel level)) := by
  have general : ∀ keyword : DeclKeyword,
      (do return .gen (← genDecl below keyword doc) : Parser Decl).GivesAt level
        (·.Kept (.ofLevel level)) := by
    intro keyword
    apply (keeps_genDecl keeps inner keyword doc).bind
    intro decl kept
    exact .pure kept
  apply GivesAt.after
  intro kind
  split
  · exact general .consts
  · exact general .vars
  · exact general .types
  · apply (keeps_funcDecl keeps inner doc).bind
    intro decl kept
    exact .pure kept
  · exact .fail
  · exact .fail

theorem keeps_decls (keeps : below.Keeps) (inner : -1 ≤ level) :
    (decls below).GivesAt level fun decls => ∀ decl ∈ decls, decl.Kept (.ofLevel level) := by
  apply GivesAt.after
  intro ends
  apply GivesAt.ite
  · exact .pure (List.forall_mem_nil _)
  · apply GivesAt.after
    intro doc
    apply (keeps_decl keeps inner doc).bind
    intro first kept
    apply GivesAt.after
    intro _
    apply GivesAt.bind (keeps.each .decls level inner)
    intro rest restKept
    exact .pure (List.forall_mem_cons.2 ⟨kept, restKept⟩)

theorem keeps_file (keeps : below.Keeps) : (file below).GivesAt 0 File.Kept := by
  apply GivesAt.after
  intro doc
  apply GivesAt.after
  intro _
  apply GivesAt.after
  intro package
  apply GivesAt.after
  intro _
  apply GivesAt.bind (keeps.each .imports 0 (by decide))
  intro imports importsKept
  apply GivesAt.bind (keeps.each .decls 0 (by decide))
  intro decls declsKept
  apply GivesAt.after
  intro trailing
  exact .pure (List.forall_mem_append.2 ⟨importsKept, declsKept⟩)

end Grammar

namespace Production

/-- One step of the induction over the nesting of productions. -/
theorem body_keeps {below : Reader} [∀ production, Steady (below production)]
    (keeps : below.Keeps) (production : Production) {level : Int} (inner : -1 ≤ level) :
    (production.body below).GivesAt level (production.Keeps (.ofLevel level)) := by
  have steady : Steady (production.body below) := (production.body_parallel below below).steady
  cases production with
  | binary floor => exact Grammar.keeps_binary keeps inner floor
  | binaryTail floor left =>
      exact GivesAt.of_imp fun kept => Grammar.keeps_binaryTail keeps inner floor kept
  | unary => exact Grammar.keeps_unary keeps inner
  | primaryTail operand =>
      exact GivesAt.of_imp fun based => Grammar.keeps_primaryTail keeps inner based
  | exprTail => exact Grammar.keeps_exprTail keeps inner
  | arguments => exact Grammar.keeps_arguments keeps inner
  | elements => exact Grammar.keeps_elements keeps inner
  | element => exact Grammar.keeps_element keeps inner
  | type => exact Grammar.keeps_type keeps inner
  | params => exact Grammar.keeps_params keeps inner
  | structFields => exact Grammar.keeps_structFields keeps inner
  | interfaceMembers => exact Grammar.keeps_interfaceMembers keeps inner
  | block => exact Grammar.keeps_block keeps inner
  | stmts => exact Grammar.keeps_stmts keeps inner
  | stmt => exact Grammar.keeps_stmt keeps inner
  | conditional => exact Grammar.keeps_conditional keeps inner
  | caseClauses => exact Grammar.keeps_caseClauses keeps inner
  | commClauses => exact Grammar.keeps_commClauses keeps inner
  | identTail => exact Grammar.keeps_identTail keeps inner
  | specs keyword => exact Grammar.keeps_specs keeps inner keyword
  | imports => exact Grammar.keeps_imports keeps inner
  | decls => exact Grammar.keeps_decls keeps inner

theorem read_keeps (bound : Nat) : (read bound).Keeps := by
  induction bound with
  | zero => exact ⟨fun _ _ _ _ _ => trivial⟩
  | succ bound ih => exact ⟨fun production _ inner => body_keeps ih production inner⟩

end Production

/-- Every rule that succeeds leaves the nesting level as it found it, and in a file that is read no
header holds a literal that could be taken for its block. -/
theorem File.parse_headers :
    (∀ (bound : Nat) (α : Type) (parser : Parser α),
      Grammar.Rule (Production.read bound) parser → ∀ state result final,
        parser state = .ok result final → final.level = state.level) ∧
    ∀ (text : String) (file : File), File.parse text = .ok file → file.Kept := by
  constructor
  · intro bound α parser rule state result final run
    exact (rule.steady.same state).of_ok run
  · intro text file parsed
    rw [File.parse] at parsed
    split at parsed
    · rename_i read final reads
      cases parsed
      exact ((Grammar.keeps_file (Production.read_keeps _) _ rfl).of_ok reads).1
    · cases parsed

/-- A conditional with a literal in parentheses in its header, read at the level of brackets. -/
theorem File.parse_headers_parenthesised :
    let header := "if x == (T\x7b1\x7d) \x7b\x7d\n"
    let text := "package p\n\nfunc f() \x7b\n\t" ++ header ++ "\x7d\n"
    let state := (ParserState.ofText header).setLevel 3
    (∃ result final, Production.read 40 .conditional state = .ok result final ∧
      final.level = 3) ∧ ∃ file, File.parse text = .ok file ∧ file.Kept := by
  intro header text state
  have conditional : (match Production.read 40 .conditional state with
      | .ok _ _ => true
      | .error _ _ => false) = true := by
    decide +kernel
  have read : (File.parse text).isOk = true := by
    decide +kernel
  constructor
  · cases run : Production.read 40 .conditional state with
    | ok result final =>
        exact ⟨result, final, rfl,
          File.parse_headers.1 40 _ _ (.production .conditional) state result final run⟩
    | error fault final =>
        rw [run] at conditional
        cases conditional
  · cases parsed : File.parse text with
    | ok file => exact ⟨file, rfl, File.parse_headers.2 text file parsed⟩
    | error fault =>
        rw [parsed] at read
        cases read

end GoMend
