import GoMend.Proofs.Formed.Passing
import GoMend.Proofs.Names.Reads
import GoMend.Proofs.Token.Identifiers
import GoMend.Proofs.Token.Words

/-!
# Heads stand behind their keywords

Statements and declarations pass the heads in them as expressions do, and so does every production,
however deeply they nest.  A file is read to the end of its text, so behind the keywords of the text
stand just the heads of the file.  The name of a declared function stands before its parameters, so
it is read as a name wherever it is written.
-/

namespace GoMend

open GoMend.Parser

namespace Grammar

variable {below : Reader} (passes : below.PassesHeads)

include passes

/-! ## Statements -/

theorem passes_simpleFrom (first : Expr) (others : List Expr) :
    (simpleFrom below first others).Passes Anything (first.heads ++ Expr.headsAll others)
      StmtKind.heads := by
  apply Passes.peek
  intro kind
  split
  · rename_i op isOp
    apply Passes.bump
    · rintro _ rfl isKeyword
      rw [isKeyword] at isOp
      cases isOp
    · intro _
      apply (passes_exprList passes).bind
      intro values
      exact .pure (by simp)
  · split
    · exact .fail
    · rename_i single
      obtain rfl : others = [] := by simpa using single
      have same : first.heads = first.heads ++ Expr.headsAll [] := (List.append_nil _).symm
      split
      · apply Passes.bumped (by decide)
        intro _
        apply (passes_expr passes).bind
        intro value
        exact .pure (by simp)
      · exact .bumped (by decide) fun _ => .pure same
      · exact .bumped (by decide) fun _ => .pure same
      · exact .pure same

theorem passes_simple : (simple below).Passes Anything [] StmtKind.heads := by
  apply (passes_expr passes).bind
  intro first
  apply (passes.each .exprTail).bind
  intro others
  exact passes_simpleFrom passes first others

theorem passes_block : (block below).Passes Anything [] Block.heads := by
  apply Passes.expect (by decide)
  intro opening
  apply (passes.each .stmts).bind
  intro stmts
  apply Passes.after
  intro closing
  exact .expect (by decide) fun _ => .pure rfl

theorem passes_stmts : (stmts below).Passes Anything [] Stmt.headsAll := by
  apply Passes.after
  intro ends
  apply Passes.ite
  · exact .pure rfl
  · apply Passes.eat (by decide)
    intro nothing
    apply Passes.ite
    · exact passes.each .stmts
    · apply Passes.after
      intro doc
      apply (passes.each .stmt).bind
      intro kind
      apply Passes.after
      intro comment
      have further : (do return { doc, kind, comment } :: (← below .stmts) :
          Parser (List Stmt)).Passes Anything kind.heads Stmt.headsAll := by
        apply (passes.each .stmts).bind
        intro rest
        exact .pure rfl
      apply Passes.after
      intro ended
      apply Passes.ite
      · exact .expectSemicolon further
      · exact further

/-- The heads in the header of a conditional. -/
def conditionHeads (header : Option Stmt × Expr) : List Head :=
  header.1.elim [] (·.heads) ++ header.2.heads

theorem passes_conditionalHeader (saved : Int) :
    (conditionalHeader below saved).Passes Anything [] conditionHeads := by
  apply (passes_simple passes).bind
  intro first
  apply Passes.eat (by decide)
  intro more
  apply Passes.ite
  · apply (passes_expr passes).bind
    intro condition
    exact .pure rfl
  · split
    · exact .pure rfl
    · exact .after fun _ => .fail

theorem passes_alternative :
    (alternative below).Passes Anything [] fun alternative => alternative.elim [] (·.heads) := by
  apply Passes.eat (by decide)
  intro more
  apply Passes.ite
  · apply Passes.peek
    intro kind
    split
    · apply (passes.each .conditional).bind
      intro other
      exact .pure rfl
    · apply (passes.each .block).bind
      intro body
      exact .pure rfl
    · exact .fail
  · exact .pure rfl

theorem passes_conditional : (conditional below).Passes Anything [] StmtKind.heads := by
  apply Passes.expect (by decide)
  intro _
  apply Passes.after
  intro saved
  apply Passes.after
  intro _
  apply (passes_conditionalHeader passes saved).bind
  intro header
  apply Passes.after
  intro _
  apply (passes.each .block).bind
  intro body
  apply (passes_alternative passes).bind
  intro alternative
  apply Passes.pure
  obtain ⟨init, condition⟩ := header
  cases init <;> cases alternative <;> simp [conditionHeads]

/-- The heads in the header of a switch. -/
def switchHeads (header : Option Stmt × Option StmtKind) : List Head :=
  header.1.elim [] (·.heads) ++ header.2.elim [] (·.heads)

omit passes in
/-- Whatever a header turns out to hold, its heads stand before those of the clauses. -/
theorem heads_switchOf? {header : Option Stmt × Option StmtKind} {clauses : List CaseClause}
    {kind : StmtKind} (made : switchOf? header.1 clauses header.2 = some kind) :
    kind.heads = switchHeads header ++ CaseClause.headsAll clauses := by
  obtain ⟨init, tag⟩ := header
  cases switches_of_switchOf? made <;> cases init <;> simp [switchHeads]

theorem passes_switchHeader : (switchHeader below).Passes Anything [] switchHeads := by
  have further : ∀ first : Option StmtKind, (do
      if ← eat .semicolon then
        let init := first.map Stmt.bare
        if ← at? .leftBrace then return (init, none)
        else return (init, some (← simple below))
      else return (none, first) : Parser (Option Stmt × Option StmtKind)).Passes Anything
        (first.elim [] (·.heads)) switchHeads := by
    intro first
    have begun : (first.map Stmt.bare).elim [] (·.heads) = first.elim [] (·.heads) := by
      cases first <;> rfl
    apply Passes.eat (by decide)
    intro more
    apply Passes.ite
    · apply Passes.after
      intro ends
      apply Passes.ite
      · exact .pure (by rw [switchHeads, begun]; exact List.append_nil _)
      · apply (passes_simple passes).bind
        intro tag
        exact .pure (by rw [switchHeads, begun]; rfl)
    · exact .pure rfl
  apply Passes.after
  intro ends
  apply Passes.ite
  · exact .pure rfl
  · apply Passes.after
    intro nothing
    apply Passes.ite
    · exact further none
    · apply (passes_simple passes).bind
      intro first
      exact further (some first)

theorem passes_switch : (switch below).Passes Anything [] StmtKind.heads := by
  apply Passes.expect (by decide)
  intro _
  apply Passes.after
  intro saved
  apply Passes.after
  intro _
  apply (passes_switchHeader passes).bind
  intro header
  apply Passes.after
  intro _
  apply Passes.expect (by decide)
  intro _
  apply (passes.each .caseClauses).bind
  intro clauses
  apply Passes.expect (by decide)
  intro _
  split
  · rename_i kind made
    exact .pure (heads_switchOf? made)
  · exact .fail

omit passes in
/-- A clause begins with a word that is no keyword of a function. -/
theorem passes_clauseKeyword {α : Type} {next : Token → Parser α} {held : List Head}
    {heads : α → List Head} (each : ∀ word, (next word).Passes Anything held heads) :
    (bump >>= next).Passes (· ∈ [Kind.caseKw, .defaultKw]) held heads := by
  apply Passes.bump
  · intro kind member
    rcases List.mem_pair.1 member with rfl | rfl <;> decide
  · exact each

theorem passes_caseClauses : (caseClauses below).Passes Anything [] CaseClause.headsAll := by
  have further : ∀ (doc : List Comment) (list : Option (List Expr)), (do
      let _ ← expect .colon
      let body ← below .stmts
      return { doc, list, body } :: (← below .caseClauses) : Parser (List CaseClause)).Passes
        Anything (list.elim [] Expr.headsAll) CaseClause.headsAll := by
    intro doc list
    apply Passes.expect (by decide)
    intro _
    apply (passes.each .stmts).bind
    intro body
    apply (passes.each .caseClauses).bind
    intro rest
    apply Passes.pure
    cases list <;> simp
  apply Passes.atAny
  · apply Passes.after
    intro doc
    apply passes_clauseKeyword
    intro keyword
    apply Passes.ite
    · apply (passes_exprList passes).bind
      intro cases
      exact further doc (some cases)
    · exact further doc none
  · exact .pure rfl

theorem passes_commClauses : (commClauses below).Passes Anything [] CommClause.headsAll := by
  have further : ∀ (doc : List Comment) (comm : Option Stmt), (do
      let _ ← expect .colon
      let body ← below .stmts
      return { doc, comm, body } :: (← below .commClauses) : Parser (List CommClause)).Passes
        Anything (comm.elim [] (·.heads)) CommClause.headsAll := by
    intro doc comm
    apply Passes.expect (by decide)
    intro _
    apply (passes.each .stmts).bind
    intro body
    apply (passes.each .commClauses).bind
    intro rest
    apply Passes.pure
    cases comm <;> simp
  apply Passes.atAny
  · apply Passes.after
    intro doc
    apply passes_clauseKeyword
    intro keyword
    apply Passes.ite
    · apply (passes_simple passes).bind
      intro comm
      exact further doc (some (.bare comm))
    · exact further doc none
  · exact .pure rfl

theorem passes_select : (select below).Passes Anything [] StmtKind.heads := by
  apply Passes.expect (by decide)
  intro _
  apply Passes.expect (by decide)
  intro _
  apply (passes.each .commClauses).bind
  intro clauses
  exact .expect (by decide) fun _ => .pure rfl

/-- The heads in a range clause or statement. -/
def LoopClause.heads : LoopClause → List Head
  | .simple kind => kind.heads
  | .range key value _ subject =>
      key.elim [] (·.heads) ++ value.elim [] (·.heads) ++ subject.heads

/-- The heads in the header of a loop. -/
def LoopHeader.heads : LoopHeader → List Head
  | .range key value define subject => (LoopClause.range key value define subject).heads
  | .clauses init condition post =>
      init.elim [] (·.heads) ++ condition.elim [] (·.heads) ++ post.elim [] (·.heads)

omit passes in
/-- The two words in front of the subject of a range clause are no keywords of functions. -/
theorem passes_rangeKeyword {α : Type} {yes : Token → Parser α} {no : Parser α} {held : List Head}
    {heads : α → List Head} (passesYes : ∀ word, (yes word).Passes Anything held heads)
    (passesNo : no.Passes Anything held heads) :
    (atAny [.eq, .colonEq] >>= fun assigns => peekSecond >>= fun second =>
      if (assigns && second == .rangeKw) = true then bump >>= fun op => bump >>= fun _ => yes op
      else no).Passes Anything held heads := by
  intro state _
  rw [Ensures, ends_bind, ends_atAny, ends_bind, ends_peekSecond, ends_ite]
  constructor
  · intro found
    obtain ⟨assigns, ranges⟩ := Bool.and_eq_true_iff.1 found
    have first : state.kind ≠ .funcKw := by
      intro isKeyword
      rw [isKeyword] at assigns
      cases assigns
    have second : state.advance.kind ≠ .funcKw := by
      rw [ParserState.kind_advance, beq_iff_eq.1 ranges]
      decide
    rw [ends_bind, ends_bump, ends_bind, ends_bump]
    apply (passesYes state.token state.advance.advance trivial).weaken
    rintro result final ⟨read, same, passed⟩
    exact ⟨read, same, ((ParserState.heads_advance first).trans
      (ParserState.heads_advance second)).trans passed⟩
  · intro _
    exact passesNo state trivial

theorem passes_loopClause : (loopClause below).Passes Anything [] LoopClause.heads := by
  apply Passes.eat (by decide)
  intro keyless
  apply Passes.ite
  · apply (passes_expr passes).bind
    intro subject
    exact .pure rfl
  · apply (passes_expr passes).bind
    intro first
    apply (passes.each .exprTail).bind
    intro others
    refine passes_rangeKeyword ?_ ?_
    · intro op
      split
      · exact .fail
      · rename_i few
        apply (passes_expr passes).bind
        intro subject
        apply Passes.pure
        rcases others with _ | ⟨second, _ | ⟨third, rest⟩⟩
        · simp [LoopClause.heads]
        · simp [LoopClause.heads]
        · simp at few
    · apply ((passes_simpleFrom passes first others)).chain
      intro kind
      exact .pure rfl

theorem passes_loopClauses (init : Option Stmt) :
    (loopClauses below init).Passes Anything (init.elim [] (·.heads)) LoopHeader.heads := by
  have further : ∀ condition : Option Expr, (do
      let _ ← expect .semicolon
      let post ←
        if ← at? .leftBrace then pure none
        else pure (some (Stmt.bare (← simple below)))
      return .clauses init condition post : Parser LoopHeader).Passes Anything
        (init.elim [] (·.heads) ++ condition.elim [] (·.heads)) LoopHeader.heads := by
    intro condition
    apply Passes.expect (by decide)
    intro _
    apply Passes.after
    intro ends
    apply Passes.ite
    · exact .pure (List.append_nil _)
    · apply (passes_simple passes).bind
      intro post
      exact .pure rfl
  apply Passes.after
  intro missing
  apply Passes.ite
  · exact (further none).relist (List.append_nil _)
  · apply (passes_expr passes).bind
    intro condition
    exact further (some condition)

theorem passes_loopHeader (saved : Int) :
    (loopHeader below saved).Passes Anything [] LoopHeader.heads := by
  apply Passes.after
  intro endless
  apply Passes.ite
  · exact .pure rfl
  · apply Passes.eat (by decide)
    intro unbegun
    apply Passes.ite
    · exact passes_loopClauses passes none
    · apply (passes_loopClause passes).bind
      intro clause
      cases clause with
      | range key value define subject => exact .pure rfl
      | simple first =>
          apply Passes.eat (by decide)
          intro more
          apply Passes.ite
          · exact passes_loopClauses passes (some (.bare first))
          · split
            · exact .pure (by simp [LoopHeader.heads, LoopClause.heads])
            · exact .after fun _ => .fail

theorem passes_loop : (loop below).Passes Anything [] StmtKind.heads := by
  rw [loop_eq]
  apply Passes.expect (by decide)
  intro _
  apply Passes.after
  intro saved
  apply Passes.after
  intro _
  apply (passes_loopHeader passes saved).bind
  intro header
  apply Passes.after
  intro _
  cases header with
  | range key value define subject =>
      apply (passes.each .block).bind
      intro body
      apply Passes.pure
      cases key <;> cases value <;> simp [LoopHeader.heads, LoopClause.heads]
  | clauses init condition post =>
      apply (passes.each .block).bind
      intro body
      apply Passes.pure
      cases init <;> cases condition <;> cases post <;> simp [LoopHeader.heads]

/-! ## Declarations -/

omit passes in
theorem passes_importSpec (doc : List Comment) :
    (importSpec doc).Passes Anything [] fun _ => [] := by
  have name : importName.Passes Anything [] fun _ => [] := by
    apply Passes.peek
    intro kind
    split
    · exact .ident fun name => .pure rfl
    · exact .bumped (by decide) fun _ => .pure rfl
    · exact .pure rfl
  apply name.bind
  intro name
  apply Passes.expect (by decide)
  intro path
  exact .after fun comment => .pure rfl

theorem passes_valueSpec (doc : List Comment) :
    (valueSpec below doc).Passes Anything [] ValueSpec.heads := by
  have ended : ∀ (names : List Ident) (type : Option Expr) (values : List Expr),
      (do return { doc, names, type, values, comment := ← takeTrailing } :
        Parser ValueSpec).Passes Anything (type.elim [] (·.heads) ++ Expr.headsAll values)
          ValueSpec.heads := by
    intro names type values
    apply Passes.after
    intro comment
    apply Passes.pure
    cases type <;> simp
  have further : ∀ (names : List Ident) (type : Option Expr), (do
      let values ←
        if ← eat .eq then exprList below
        else pure []
      return { doc, names, type, values, comment := ← takeTrailing } : Parser ValueSpec).Passes
        Anything (type.elim [] (·.heads)) ValueSpec.heads := by
    intro names type
    apply Passes.eat (by decide)
    intro more
    apply Passes.ite
    · apply (passes_exprList passes).bind
      intro values
      exact ended names type values
    · exact (ended names type []).relist (List.append_nil _)
  apply (passes_identList passes).bind
  intro names
  apply Passes.after
  intro untyped
  apply Passes.ite
  · exact further names none
  · apply (passes_type_below passes).bind
    intro type
    exact further names (some type)

theorem passes_spec (keyword : DeclKeyword) (doc : List Comment) :
    (spec below keyword doc).Passes Anything [] Spec.heads := by
  cases keyword with
  | imports =>
      apply (passes_importSpec doc).bind
      intro spec
      exact .pure rfl
  | consts =>
      apply (passes_valueSpec passes doc).bind
      intro spec
      exact .pure rfl
  | vars =>
      apply (passes_valueSpec passes doc).bind
      intro spec
      exact .pure rfl
  | types =>
      have type : (typeSpec below doc).Passes Anything [] TypeSpec.heads := by
        apply Passes.ident
        intro name
        apply Passes.eat (by decide)
        intro isAlias
        apply (passes_type_below passes).bind
        intro type
        exact .after fun comment => .pure rfl
      apply type.bind
      intro spec
      exact .pure rfl

theorem passes_specs (keyword : DeclKeyword) :
    (specs below keyword).Passes Anything [] Spec.headsAll := by
  apply Passes.after
  intro ends
  apply Passes.ite
  · exact .pure rfl
  · apply Passes.after
    intro doc
    apply (passes_spec passes keyword doc).bind
    intro first
    apply Passes.expectSemicolon
    apply (passes.each (.specs keyword)).bind
    intro rest
    exact .pure rfl

/-- A declaration with entries begins with another keyword. -/
theorem passes_genDecl {kind : Kind} (other : kind ≠ .funcKw) (keyword : DeclKeyword)
    (doc : List Comment) : (genDecl below keyword doc).Passes (· = kind) [] GenDecl.heads := by
  apply Passes.bumped other
  intro word
  apply Passes.eat (by decide)
  intro grouped
  apply Passes.ite
  · apply (passes.each (.specs keyword)).bind
    intro specs
    exact .expect (by decide) fun _ => .pure rfl
  · apply (passes_spec passes keyword []).bind
    intro only
    exact .pure (by simp)

/-- What stands behind the keyword of a declared function, in front of its name, and what was passed
there. -/
structure Received (start : List Token) (receiver : Option FieldList) (state : ParserState) :
    Prop where
  made : ∃ before, start = before ++ state.ahead ∧
    ∀ (name : Token) (words : List Token) (signature : Signature), name.kind = .identifier →
      signature.MadeOf words →
        Head.MadeOf ⟨receiver, some name.toIdent, signature⟩ (before ++ name :: words)
  passed : Heads start (receiver.elim [] (·.heads false)) state.ahead

/-- Name, signature and body of a declared function, behind the receiver if there is one. -/
theorem passes_received (doc : List Comment) {keyword : Token} (begins : keyword.kind = .funcKw)
    {start : List Token} {receiver : Option FieldList} {state : ParserState}
    (received : Received start receiver state) : (do
      let name ← ident
      let signature ← signature below
      let body ←
        if ← at? .leftBrace then pure (some (← functionBody below))
        else pure none
      return { doc, receiver, name, signature, body } : Parser FuncDecl).Ensures state
        fun decl final => Heads (keyword :: start) decl.heads final.ahead := by
  obtain ⟨bound, rfl⟩ := passes.isRead
  have ended : ∀ (name : Ident) (signature : Signature), (do
      let body ←
        if ← at? .leftBrace then pure (some (← functionBody (Production.read bound)))
        else pure none
      return { doc, receiver, name, signature, body } : Parser FuncDecl).Passes Anything
        (⟨receiver, some name, signature⟩ ::
          (receiver.elim [] (·.heads false) ++ signature.heads)) FuncDecl.heads := by
    intro name signature
    apply Passes.after
    intro bodied
    apply Passes.ite
    · apply (passes_functionBody passes).bind
      intro body
      exact .pure (by simp [FuncDecl.head])
    · exact .pure (by simp [FuncDecl.head])
  rw [Ensures, ends_bind, ends_ident]
  constructor
  · intro isName
    obtain ⟨name, named, nameAhead⟩ := ParserState.ahead_of_kind isName (by decide)
    have token : state.token = name := by
      rw [ParserState.token, nameAhead]
    rw [ends_bind]
    apply ((madeOf_signature bound state.advance).and
      (passes_signature passes state.advance trivial)).weaken
    rintro signature middle ⟨⟨words, wordsAhead, made⟩, inner, same, passedInner⟩
    obtain ⟨before, isBefore, makes⟩ := received.made
    have own : Head.Begins start ⟨receiver, some name.toIdent, signature⟩ := by
      refine ⟨before ++ name :: words, ⟨middle.ahead, ?_⟩, makes name words signature named made⟩
      rw [isBefore, nameAhead, wordsAhead, List.append_assoc, List.cons_append]
    have passedName := ParserState.heads_advance (isName ▸ by decide : state.kind ≠ .funcKw)
    have all := Heads.keyword begins own ((received.passed.trans passedName).trans passedInner)
    apply (ended _ signature middle trivial).weaken
    rintro decl final ⟨read, heads, further⟩
    rw [heads, token]
    rw [List.nil_append] at same
    rw [List.append_nil, ← same] at all
    exact all.trans further
  · intro _
    trivial

/-- The keyword of a declared function passes receiver and name as well. -/
theorem passes_funcDecl (doc : List Comment) :
    (funcDecl below doc).Passes Anything [] FuncDecl.heads := by
  intro state _
  rw [funcDecl, Ensures, ends_bind, ends_expect]
  constructor
  · intro isKeyword
    obtain ⟨keyword, begins, ahead⟩ := ParserState.ahead_of_kind isKeyword (by decide)
    have further : ∀ (receiver : Option FieldList) (middle : ParserState),
        Received state.advance.ahead receiver middle → (do
          let name ← ident
          let signature ← signature below
          let body ←
            if ← at? .leftBrace then pure (some (← functionBody below))
            else pure none
          return { doc, receiver, name, signature, body } : Parser FuncDecl).Ensures middle
            fun decl final =>
              ∃ read, decl.heads = [] ++ read ∧ Heads state.ahead read final.ahead := by
      intro receiver middle received
      apply (passes_received passes doc begins received).weaken
      intro decl final passed
      exact ⟨decl.heads, rfl, ahead ▸ passed⟩
    rw [ends_bind, ends_at?, ends_ite]
    constructor
    · intro _
      obtain ⟨bound, isRead⟩ := passes.isRead
      rw [ends_bind]
      apply ((isRead ▸ madeOf_parameters bound state.advance).and
        (passes_parameters passes state.advance trivial)).weaken
      rintro list middle ⟨⟨before, isBefore, made⟩, inner, same, passed⟩
      refine further (some list) middle ⟨⟨before, isBefore, ?_⟩, ?_⟩
      · exact fun name words signature named signed => .method made named signed
      · rw [List.nil_append] at same
        rw [Option.elim_some, same]
        exact passed
    · intro _
      refine further none state.advance ⟨⟨[], rfl, ?_⟩, .refl⟩
      exact fun name words signature named signed => .function named signed
  · intro _
    trivial

theorem passes_labeled {kind : Kind} (isName : kind = .identifier) (state : ParserState)
    (here : state.kind = kind) (colon : state.secondKind = .colon) : (do
      let label ← ident
      let _ ← bump
      if ← at? .rightBrace then return .labeled label (.bare .empty)
      else return .labeled label (.bare (← below .stmt)) : Parser StmtKind).Ensures state
        fun kind final => ∃ read, kind.heads = [] ++ read ∧ Heads state.ahead read final.ahead := by
  have labeled : ∀ label : Ident, (do
      if ← at? .rightBrace then return .labeled label (.bare .empty)
      else return .labeled label (.bare (← below .stmt)) : Parser StmtKind).Passes Anything []
        StmtKind.heads := by
    intro label
    apply Passes.after
    intro ends
    apply Passes.ite
    · exact .pure rfl
    · apply (passes.each .stmt).bind
      intro kind
      exact .pure rfl
  have first := ParserState.heads_advance (here.trans isName ▸ by decide : state.kind ≠ .funcKw)
  have second : state.advance.kind ≠ .funcKw := by
    rw [ParserState.kind_advance, colon]
    decide
  rw [Ensures, ends_bind, ends_ident]
  constructor
  · intro _
    rw [ends_bind, ends_bump]
    apply (labeled _ state.advance.advance trivial).weaken
    rintro result final ⟨read, same, passed⟩
    exact ⟨read, same, (first.trans (ParserState.heads_advance second)).trans passed⟩
  · intro _
    trivial

theorem passes_stmt : (stmt below).Passes Anything [] StmtKind.heads := by
  have declared : ∀ {kind : Kind} (keyword : DeclKeyword), kind ≠ .funcKw →
      (do return .decl (← genDecl below keyword []) : Parser StmtKind).Passes (· = kind) []
        StmtKind.heads := by
    intro kind keyword other
    apply (passes_genDecl passes other keyword []).chain
    exact fun decl => .pure rfl
  have branched : ∀ {kind : Kind}, kind ≠ .funcKw → (do
      let keyword := branchKeyword (← bump).kind
      if ← at? .identifier then return .branch keyword (some (← ident))
      else return .branch keyword none : Parser StmtKind).Passes (· = kind) []
        StmtKind.heads := by
    intro kind other
    apply Passes.bumped other
    intro word
    apply Passes.after
    intro labeled
    apply Passes.ite
    · exact .ident fun label => .pure rfl
    · exact .pure rfl
  apply Passes.peek
  intro kind
  split
  · exact declared .consts (by decide)
  · exact declared .vars (by decide)
  · exact declared .types (by decide)
  · apply Passes.bumped (by decide)
    intro word
    apply (passes_expr passes).bind
    intro call
    exact .pure rfl
  · apply Passes.bumped (by decide)
    intro word
    apply (passes_expr passes).bind
    intro call
    exact .pure rfl
  · apply Passes.bumped (by decide)
    intro word
    apply Passes.after
    intro ends
    apply Passes.ite
    · exact .pure rfl
    · apply (passes_exprList passes).bind
      intro results
      exact .pure rfl
  · exact branched (by decide)
  · exact branched (by decide)
  · exact branched (by decide)
  · exact .bumped (by decide) fun word => .pure rfl
  · apply (passes.each .block).bind
    intro body
    exact .pure rfl
  · exact (passes.each .conditional).anywhere
  · exact (passes_switch passes).anywhere
  · exact (passes_select passes).anywhere
  · exact (passes_loop passes).anywhere
  · intro state here
    rw [Ensures, ends_bind, ends_peekSecond, ends_ite]
    constructor
    · intro labeled
      exact passes_labeled passes labeled.1 state here labeled.2
    · intro _
      exact passes_simple passes state trivial

theorem passes_imports :
    (imports below).Passes Anything [] fun decls => decls.flatMap (·.heads) := by
  apply Passes.at?
  · apply Passes.after
    intro doc
    apply (passes_genDecl passes (by decide) .imports doc).chain
    intro first
    apply Passes.expectSemicolon
    apply (passes.each .imports).bind
    intro rest
    exact .pure rfl
  · exact .pure rfl

theorem passes_decl (doc : List Comment) :
    (decl below doc).Passes Anything [] Decl.heads := by
  have general : ∀ {kind : Kind} (keyword : DeclKeyword), kind ≠ .funcKw →
      (do return .gen (← genDecl below keyword doc) : Parser Decl).Passes (· = kind) []
        Decl.heads := by
    intro kind keyword other
    apply (passes_genDecl passes other keyword doc).chain
    exact fun decl => .pure rfl
  apply Passes.peek
  intro kind
  split
  · exact general .consts (by decide)
  · exact general .vars (by decide)
  · exact general .types (by decide)
  · apply (passes_funcDecl passes doc).bind
    intro decl
    exact .pure rfl
  · exact .fail
  · exact .fail

theorem passes_decls : (decls below).Passes Anything [] fun decls => decls.flatMap (·.heads) := by
  apply Passes.after
  intro ends
  apply Passes.ite
  · exact .pure rfl
  · apply Passes.after
    intro doc
    apply (passes_decl passes doc).bind
    intro first
    apply Passes.expectSemicolon
    apply (passes.each .decls).bind
    intro rest
    exact .pure rfl

theorem passes_file : (file below).Passes Anything [] File.heads := by
  apply Passes.after
  intro doc
  apply Passes.expect (by decide)
  intro _
  apply Passes.ident
  intro package
  apply Passes.expectSemicolon
  apply (passes.each .imports).bind
  intro imports
  apply (passes.each .decls).bind
  intro decls
  apply Passes.after
  intro trailing
  exact .pure (by simp [File.heads])

end Grammar

namespace Production

/-- One step of the induction over the nesting of productions. -/
theorem body_passesHeads {below : Reader} (passes : below.PassesHeads) (production : Production) :
    (production.body below).Passes Anything production.heldHeads production.heads := by
  cases production with
  | binary floor => exact Grammar.passes_binary passes floor
  | binaryTail floor left => exact Grammar.passes_binaryTail passes floor left
  | unary => exact Grammar.passes_unary passes
  | primaryTail operand => exact Grammar.passes_primaryTail passes operand
  | exprTail => exact Grammar.passes_exprTail passes
  | arguments => exact Grammar.passes_arguments passes
  | elements => exact Grammar.passes_elements passes
  | element => exact Grammar.passes_element passes
  | type => exact Grammar.passes_type passes
  | params => exact Grammar.passes_params passes
  | structFields => exact Grammar.passes_structFields passes
  | interfaceMembers => exact Grammar.passes_interfaceMembers passes
  | block => exact Grammar.passes_block passes
  | stmts => exact Grammar.passes_stmts passes
  | stmt => exact Grammar.passes_stmt passes
  | conditional => exact Grammar.passes_conditional passes
  | caseClauses => exact Grammar.passes_caseClauses passes
  | commClauses => exact Grammar.passes_commClauses passes
  | identTail => exact Grammar.passes_identTail passes
  | specs keyword => exact Grammar.passes_specs passes keyword
  | imports => exact Grammar.passes_imports passes
  | decls => exact Grammar.passes_decls passes

theorem read_passesHeads (bound : Nat) : (read bound).PassesHeads := by
  induction bound with
  | zero => exact ⟨⟨0, rfl⟩, fun _ => .fail⟩
  | succ bound ih => exact ⟨⟨bound + 1, rfl⟩, body_passesHeads ih⟩

end Production

namespace Grammar

variable {below : Reader}

/-- A file is read to the end of its text. -/
theorem file_ends (sorts : below.SortsImports) (state : ParserState) :
    (file below).Ensures state fun _ final => final.kind = .endOfFile := by
  simp [file]
  intro _ _
  refine (ensures_trivial _ _).weaken fun _ middle _ => ?_
  refine (ensures_trivial _ _).weaken fun _ behind _ => ?_
  exact (sorts .decls behind).weaken fun _ final sorted => sorted.2

/-- Behind the keywords of the text stand the heads of the file. -/
theorem file_heads {bound : Nat} {state : ParserState}
    (wellSpelled : Lexed.WellSpelled state.ahead) :
    (file (Production.read bound)).Ensures state fun file _ =>
      List.Forall₂ Head.Begins (Lexed.behindKeywords state.ahead) file.heads := by
  have passed := passes_file (Production.read_passesHeads bound) state trivial
  have ended := file_ends (Production.read_sorted bound) state
  have start : Within state.ahead state.ahead := List.suffix_refl _
  have := Production.read_forward bound
  apply ((passed.and ended).and (Stays.stays state start)).weaken
  rintro file final ⟨⟨⟨read, same, passed⟩, atEnd⟩, suffix⟩
  have spelled : Lexed.WellSpelled final.ahead :=
    fun token member => wellSpelled token (suffix.subset member)
  rw [ParserState.ahead_eq_nil spelled atEnd] at passed
  rw [same]
  exact passed.of_nil

end Grammar

namespace Lexed

/-- What stands behind a keyword is the rest of the words. -/
theorem suffix_of_mem_behindKeywords {words rest : List Token}
    (member : rest ∈ behindKeywords words) : rest <:+ words := by
  induction words with
  | nil => cases member
  | cons token words ih =>
      have later : rest ∈ behindKeywords words → rest <:+ token :: words :=
        fun member => (ih member).trans (List.suffix_cons _ _)
      rw [behindKeywords] at member
      split at member
      · rcases List.mem_cons.1 member with rfl | member
        · exact List.suffix_cons _ _
        · exact later member
      · exact later member

end Lexed

/-- A signature begins with a parenthesis. -/
theorem Signature.MadeOf.opens {signature : Signature} {words : List Token}
    (made : signature.MadeOf words) : Lexed.headKind words = .leftParen := by
  have listed : ∀ {list : FieldList} {words behind : List Token}, list.MadeOf words →
      Lexed.headKind (words ++ behind) = .leftParen := by
    rintro _ _ _ ⟨opens, _, _, _, _⟩
    exact opens
  cases made with
  | plain taking => exact List.append_nil words ▸ listed taking
  | listed taking _ | single taking _ => exact listed taking

/-- The name of a declared function stands before a parenthesis. -/
theorem FuncDecl.name_of_begins {decl : FuncDecl} {words : List Token}
    (begins : Head.Begins words decl.head) :
    ∃ name rest, name :: rest <:+ words ∧ name.kind = .identifier ∧ name.toIdent = decl.name ∧
      Lexed.headKind rest = .leftParen := by
  obtain ⟨own, ⟨behind, rfl⟩, made⟩ := begins
  obtain ⟨doc, receiver, called, signature, body⟩ := decl
  generalize isHead : FuncDecl.head _ = head at made
  have opens : ∀ {words : List Token}, signature.MadeOf words →
      Lexed.headKind (words ++ behind) = .leftParen := by
    intro words signed
    have first := signed.opens
    cases words with
    | nil => cases first
    | cons => exact first
  cases made with
  | anonymous => cases congrArg Head.name isHead
  | function named signed =>
      cases isHead
      exact ⟨_, _, List.suffix_refl _, named, rfl, opens signed⟩
  | method _ named signed =>
      cases isHead
      exact ⟨_, _, by simp, named, rfl, opens signed⟩

namespace File

variable {text : String} {file : File} (parsed : File.parse text = .ok file)

include parsed

/-- Behind the keywords of a text stand the heads of the file that it is read as. -/
theorem parse_heads : List.Forall₂ Head.Begins
    (Lexed.behindKeywords (Lexed.ofText text).tokens) file.heads := by
  rw [File.parse] at parsed
  split at parsed
  · rename_i read final reads
    cases parsed
    exact (Grammar.file_heads (Lexed.ofText_wellSpelled text)).of_ok reads
  · cases parsed

/-- The name of a function that was read is read as a name wherever it is written. -/
theorem parse_isName {decl : FuncDecl} (member : .func decl ∈ file.decls) :
    Token.IsName decl.name.name := by
  have inFile : decl.head ∈ file.heads :=
    List.mem_flatMap.2 ⟨.func decl, member, List.mem_cons_self⟩
  obtain ⟨index, inside, isHead⟩ := List.mem_iff_getElem.1 inFile
  obtain ⟨length, each⟩ := List.forall₂_iff_get.1 (parse_heads parsed)
  have stands : index < (Lexed.behindKeywords (Lexed.ofText text).tokens).length :=
    length ▸ inside
  have begins := each index stands inside
  rw [List.get_eq_getElem, List.get_eq_getElem, isHead] at begins
  obtain ⟨name, rest, behind, named, same, opens⟩ := FuncDecl.name_of_begins begins
  have suffix := behind.trans (Lexed.suffix_of_mem_behindKeywords (List.getElem_mem stands))
  have steps := (Lexed.Orderly.of_suffix (Lexed.ofText_orderly text) suffix).1
  rw [← same, Token.isName_iff_lexeme]
  have lexeme := steps.lexeme (by rw [named]; decide) (by rw [opens]; decide)
  rw [named] at lexeme
  exact lexeme

end File

end GoMend
