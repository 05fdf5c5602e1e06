import GoMend.Proofs.Nesting.Productions

/-!
# The bound on nesting is never reached

Productions are ranked so that a production that asks for another one in front of the same words
asks for one of lower rank.  A question is therefore always lighter than the production that asks
it, if a word weighs more than any rank, and the weight of what is read bounds how deeply
productions nest.
-/

namespace GoMend

open GoMend.Parser

namespace Production

/-- How many questions in a row may follow, each asked by the production that answers the one
before, until a word is read. -/
def rank : Production → Nat
  | .unary | .params | .interfaceMembers => 1
  | .binary _ => 2
  | .element | .arguments | .stmt => 3
  | .elements | .stmts => 4
  | _ => 0

theorem rank_le (production : Production) : production.rank ≤ 4 := by
  cases production <;> simp [rank]

/-- What the production gives if it reads nothing: an empty list, or the operand that it is handed.
Other productions give nothing then. -/
def Idle : (production : Production) → production.Result → Prop
  | .binaryTail _ left, (expr : Expr) => expr = left
  | .primaryTail operand, (expr : Expr) => expr = operand
  | .exprTail, (exprs : List Expr) => exprs = []
  | .arguments, (read : List Expr × Bool) => read.1 = []
  | .elements, (items : List Expr) => items = []
  | .params, (entries : List (Expr × Option Expr)) => entries = []
  | .structFields, (fields : List Field) => fields = []
  | .interfaceMembers, (fields : List Field) => fields = []
  | .stmts, (body : List Stmt) => body = []
  | .caseClauses, (clauses : List CaseClause) => clauses = []
  | .commClauses, (clauses : List CommClause) => clauses = []
  | .identTail, (names : List Ident) => names = []
  | .specs _, (entries : List Spec) => entries = []
  | .imports, (list : List Decl) => list = []
  | .decls, (list : List Decl) => list = []
  | .binary _, _ | .unary, _ | .element, _ | .type, _ | .block, _ | .stmt, _ | .conditional, _ =>
      False

/-- A word weighs more than any production. -/
def weight (production : Production) (state : ParserState) : Nat :=
  5 * state.ahead.length + production.rank

/-- Two readers make a production do the same if they agree wherever fewer words remain, and in
front of the same words on productions of lower rank. -/
theorem body_alike {left right : Reader} {state : ParserState} (production : Production)
    (meet : Meet left right state.ahead.length)
    (asks : ∀ next : Production, next.rank < production.rank → ∀ later : ParserState,
      later.ahead = state.ahead → Alike next.Idle later (left next) (right next)) :
    Alike production.Idle state (production.body left) (production.body right) := by
  cases production with
  | binary floor =>
      exact Grammar.alike_binary meet floor (asks .unary (Nat.lt_succ_self 1) state rfl)
  | binaryTail floor operand => exact Grammar.alike_binaryTail meet floor operand
  | unary => exact Grammar.alike_unary meet (asks .type (by decide) state rfl)
  | primaryTail operand => exact Grammar.alike_primaryTail meet operand
  | exprTail => exact Grammar.alike_exprTail meet
  | arguments =>
      exact Grammar.alike_arguments meet (asks .type (by decide) state rfl)
        (asks (.binary 1) (by decide) state rfl)
  | elements => exact Grammar.alike_elements meet (asks .element (by decide) state rfl)
  | element => exact Grammar.alike_element meet (asks (.binary 1) (by decide) state rfl)
  | type => exact Grammar.alike_type meet
  | params => exact Grammar.alike_params meet (asks .type (by decide) state rfl)
  | structFields => exact Grammar.alike_structFields meet
  | interfaceMembers =>
      exact Grammar.alike_interfaceMembers meet fun _ => asks .type (by decide) _ rfl
  | block => exact Grammar.alike_block meet
  | stmts => exact Grammar.alike_stmts meet fun _ => asks .stmt (by decide) _ rfl
  | stmt =>
      exact Grammar.alike_stmt meet (asks .block (by decide) state rfl)
        (asks .conditional (by decide) state rfl) (asks (.binary 1) (by decide) state rfl)
  | conditional => exact Grammar.alike_conditional meet
  | caseClauses => exact Grammar.alike_caseClauses meet
  | commClauses => exact Grammar.alike_commClauses meet
  | identTail => exact Grammar.alike_identTail meet
  | specs keyword => exact Grammar.alike_specs meet keyword
  | imports => exact Grammar.alike_imports meet
  | decls => exact Grammar.alike_decls meet

/-- Unless a production reads a word, it gives what it gives without reading any. -/
theorem read_idle (bound : Nat) (production : Production) (state : ParserState) :
    (read bound production).Ensures state fun result final =>
      production.Idle result ∨ final.ahead.length < state.ahead.length := by
  induction bound generalizing production state with
  | zero => trivial
  | succ bound ih =>
      have meet : Meet (read bound) (read bound) state.ahead.length :=
        ⟨read_forward bound, fun _ _ _ => rfl⟩
      exact (body_alike production meet fun next _ later _ => ⟨rfl, ih next later⟩).further

/-- What a production does depends only on what is lighter. -/
theorem body_congr {left : Reader} {bound : Nat} {production : Production} {state : ParserState}
    (agree : ∀ next later, weight next later < production.weight state →
      left next later = read bound next later) :
    production.body left state = production.body (read bound) state := by
  have meet : Meet left (read bound) state.ahead.length := by
    refine ⟨read_forward bound, fun next later fewer => agree next later ?_⟩
    have ranked := next.rank_le
    unfold weight
    omega
  have asks : ∀ next : Production, next.rank < production.rank → ∀ later : ParserState,
      later.ahead = state.ahead → Alike next.Idle later (left next) (read bound next) := by
    intro next lower later same
    refine ⟨agree next later ?_, read_idle bound next later⟩
    rw [weight, weight, same]
    omega
  exact (body_alike production meet asks).same

/-! ## Questions -/

/-- The production, started in a state, asks the next one in a later state: with another answer to
this one question it would end otherwise. -/
def Asks (production : Production) (state : ParserState) (next : Production)
    (later : ParserState) : Prop :=
  ∃ (bound : Nat) (other : Reader),
    (∀ question place, ¬(question = next ∧ place = later) →
      other question place = read bound question place) ∧
    production.body other state ≠ production.body (read bound) state

/-- So many productions, each asked by the one before. -/
inductive Chain : Nat → Production → ParserState → Production → ParserState → Prop
  | refl (production : Production) (state : ParserState) : Chain 0 production state production state
  | step {length : Nat} {first next last : Production} {state later final : ParserState}
      (asks : first.Asks state next later) (rest : Chain length next later last final) :
      Chain (length + 1) first state last final

/-- The second production is the next round of the loop that the first one goes through. -/
inductive Round : Production → Production → Prop
  | operators (floor : Nat) (left joined : Expr) :
      Round (.binaryTail floor left) (.binaryTail floor joined)
  | operand (operand followed : Expr) : Round (.primaryTail operand) (.primaryTail followed)
  | exprs : Round .exprTail .exprTail
  | arguments : Round .arguments .arguments
  | elements : Round .elements .elements
  | params : Round .params .params
  | structFields : Round .structFields .structFields
  | interfaceMembers : Round .interfaceMembers .interfaceMembers
  | stmts : Round .stmts .stmts
  | caseClauses : Round .caseClauses .caseClauses
  | commClauses : Round .commClauses .commClauses
  | names : Round .identTail .identTail
  | specs (keyword : DeclKeyword) : Round (.specs keyword) (.specs keyword)
  | imports : Round .imports .imports
  | decls : Round .decls .decls

variable {production next : Production} {state later : ParserState}

/-- A production that only looks at the words ahead before a question asks it. -/
theorem Asks.of_first (rest : Reader → next.Result → Parser production.Result)
    (first : ∀ below, production.body below state = (below next >>= rest below) later) :
    production.Asks state next later := by
  classical
  let other : Reader := fun question => (fun place =>
    if question = next ∧ place = later then fail .noCondition place
    else read 0 question place : Parser question.Result)
  have answer : other next later = fail .noCondition later := if_pos ⟨rfl, rfl⟩
  refine ⟨0, other, fun question place another => if_neg another, ?_⟩
  intro same
  rw [first other, first (read 0)] at same
  simp only [Bind.bind, EStateM.bind, answer] at same
  cases same

theorem Asks.lighter (asks : production.Asks state next later) :
    next.weight later < production.weight state := by
  obtain ⟨bound, other, others, differs⟩ := asks
  apply Decidable.byContradiction
  intro heavy
  apply differs
  apply body_congr
  intro question place lighter
  apply others
  rintro ⟨rfl, rfl⟩
  exact heavy lighter

/-- A question is asked where fewer words remain, or to a production of lower rank. -/
theorem Asks.lower (asks : production.Asks state next later) :
    later.ahead.length < state.ahead.length ∨
      later.ahead.length = state.ahead.length ∧ next.rank < production.rank := by
  have lighter := asks.lighter
  have ranked := production.rank_le
  unfold weight at lighter
  omega

theorem Chain.weight_le {length : Nat} (chain : Chain length production state next later) :
    next.weight later + length ≤ production.weight state := by
  induction chain with
  | refl => exact Nat.le_refl _
  | step asks _ ih =>
      have lighter := asks.lighter
      omega

/-- Of five questions in a row one is asked behind a word. -/
theorem Chain.reads {words : Nat} (chain : Chain (5 * words) production state next later) :
    later.ahead.length + words ≤ state.ahead.length := by
  have lighter := chain.weight_le
  have ranked := production.rank_le
  unfold weight at lighter
  omega

theorem Round.rank_eq (round : Round production next) : next.rank = production.rank := by
  cases round <;> rfl

/-- A loop reads a word before it goes on. -/
theorem Round.reads (round : Round production next) (asks : production.Asks state next later) :
    later.ahead.length < state.ahead.length := by
  have same := round.rank_eq
  cases asks.lower with
  | inl fewer => exact fewer
  | inr lower => omega

/-! ## Readers that begin elsewhere -/

/-- Productions nested as deeply as the bound says, above whatever reader is at the bottom. -/
def unrolled (base : Reader) : Nat → Reader
  | 0 => base
  | bound + 1 => fun production => production.body (unrolled base bound)

/-- If more nesting is allowed than the production weighs, the bottom does not matter. -/
theorem unrolled_eq (base : Reader) {bound other : Nat} (enough : production.weight state < bound)
    (alsoEnough : production.weight state < other) :
    unrolled base bound production state = read other production state := by
  induction bound generalizing other production state with
  | zero => exact absurd enough (Nat.not_lt_zero _)
  | succ bound ih =>
      cases other with
      | zero => exact absurd alsoEnough (Nat.not_lt_zero _)
      | succ other =>
          apply body_congr
          intro next later lighter
          exact ih (by omega) (by omega)

end Production

/-- A file is read alike whatever is at the bottom of the nesting. -/
theorem Grammar.file_unrolled (base : Reader) (state : ParserState) {bound : Nat}
    (enough : File.nestingBound state.ahead.length ≤ bound) :
    file (Production.unrolled base bound) state =
      file (Production.read (File.nestingBound state.ahead.length)) state := by
  have meet : Meet (Production.unrolled base bound)
      (Production.read (File.nestingBound state.ahead.length)) state.ahead.length := by
    refine ⟨Production.read_forward _, fun production later fewer => ?_⟩
    have ranked := production.rank_le
    have light : production.weight later < File.nestingBound state.ahead.length := by
      rw [Production.weight, File.nestingBound]
      omega
    exact Production.unrolled_eq base (Nat.lt_of_lt_of_le light enough) light
  exact (alike_file meet).same

/-! ## The fault of the bound -/

namespace Parser

/-- However the parser ends, it does not tell that the nesting is exhausted. -/
def Unexhausted {α : Type} (parser : Parser α) : Prop :=
  ∀ state, parser.Ends state (fun _ _ => True) fun error _ => error.fault ≠ .exhausted

theorem Primitive.unexhausted {α : Type} {parser : Parser α} (primitive : Primitive parser) :
    parser.Unexhausted := by
  intro state
  cases primitive with
  | fail told | failAt offset told | stop level told => exact told
  | eat => exact ends_eat.2 ⟨fun _ => trivial, fun _ => trivial⟩
  | expect => exact ends_expect.2 ⟨fun _ => trivial, fun _ => nofun⟩
  | takeTrailing =>
      obtain ⟨comment, comments, run⟩ := takeTrailing_run state
      rw [Ends, run]
      trivial
  | _ => trivial

/-- Parsers that are put together from productions which do not tell so do not tell so. -/
theorem Parallel.unexhausted {left right : Reader} {α : Type} {first second : Parser α}
    (parallel : Parallel left right first second)
    (each : ∀ production, (left production).Unexhausted) : first.Unexhausted := by
  induction parallel with
  | primitive isPrimitive => exact isPrimitive.unexhausted
  | below production => exact each production
  | bind _ _ untoldFirst untoldNext =>
      intro state
      rw [ends_bind]
      apply (untoldFirst state).mono
      · exact fun result middle _ => untoldNext result middle
      · exact fun _ _ => id
  | atLevel _ _ untold =>
      intro state
      rw [ends_atLevel]
      exact untold _
  | restored level _ _ untoldFirst untoldNext =>
      intro state
      rw [ends_bind, ends_level, ends_bind, ends_setLevel, ends_bind]
      apply (untoldFirst state.level (state.setLevel level)).mono
      · intro result middle _
        rw [ends_bind, ends_setLevel]
        exact untoldNext result (middle.setLevel state.level)
      · exact fun _ _ => id
  | attempt _ _ _ told untoldFirst untoldClosing untoldNext =>
      intro state
      rw [ends_bind, ends_outcome]
      apply (untoldFirst state).mono
      · intro result middle _
        rw [ends_bind]
        apply (untoldClosing middle).mono
        · exact fun _ behind _ => untoldNext result behind
        · exact fun _ _ => id
      · intro error middle untold
        rw [ends_bind]
        apply (untoldClosing middle).mono
        · intro close behind _
          rw [(told error).1]
          exact untold
        · exact fun _ _ => id

end Parser

theorem Production.unrolled_unexhausted {base : Reader}
    (each : ∀ production, (base production).Unexhausted) (bound : Nat) (production : Production) :
    (unrolled base bound production).Unexhausted := by
  induction bound generalizing production with
  | zero => exact each production
  | succ bound ih =>
      exact (production.body_parallel (unrolled base bound) (unrolled base bound)).unexhausted ih

theorem Grammar.file_unexhausted {below : Reader}
    (each : ∀ production, (below production).Unexhausted) : (file below).Unexhausted :=
  have parallel : Parallel below below (file below) (file below) := inferInstance
  parallel.unexhausted each

/-- A file is never refused for the depth of its nesting. -/
theorem File.parse_unexhausted {text : String} {error : SyntaxError}
    (failed : File.parse text = .error error) : error.fault ≠ .exhausted := by
  rw [File.parse] at failed
  split at failed
  · cases failed
  · rename_i fault final run
    cases failed
    -- At the bottom of the nesting any other fault may be told instead.
    have base : ∀ production : Production,
        (fail .noCondition : Parser production.Result).Unexhausted := fun _ _ => nofun
    rw [← Grammar.file_unrolled (fun _ => fail .noCondition) _ (Nat.le_refl _)] at run
    have untold := Grammar.file_unexhausted
      (Production.unrolled_unexhausted base (nestingBound (ParserState.ofText text).ahead.length))
      (ParserState.ofText text)
    rw [Ends, run] at untold
    exact untold

/-- Reading ends on every input.  However a rule ends, it has only gone on to later words, and a
production that gives more than an empty list or the operand it is handed has read a word.  A
question is asked where fewer words remain or to a production of lower rank; so a loop reads a word
before it goes on, and of five questions in a row one is asked behind a word.  The bound on the
nesting grows with the number of words and is never reached: a greater one and whatever stands at
the bottom change nothing, and no text is refused for it. -/
theorem Grammar.reading_ends :
    (∀ (bound : Nat) (α : Type) (parser : Parser α), Rule (Production.read bound) parser →
      ∀ state, parser.Ends state (fun _ final => final.ahead <:+ state.ahead)
        fun _ final => final.ahead <:+ state.ahead) ∧
    (∀ bound production state result final,
      Production.read bound production state = .ok result final →
        production.Idle result ∨ final.ahead.length < state.ahead.length) ∧
    (∀ production state next later, Production.Asks production state next later →
      later.ahead.length < state.ahead.length ∨
        later.ahead.length = state.ahead.length ∧ next.rank < production.rank) ∧
    (∀ production next state later, Production.Round production next →
      production.Asks state next later → later.ahead.length < state.ahead.length) ∧
    (∀ words production state next later, Production.Chain (5 * words) production state next later →
      later.ahead.length + words ≤ state.ahead.length) ∧
    (∀ (base : Reader) (state : ParserState) (bound : Nat),
      File.nestingBound state.ahead.length ≤ bound →
        file (Production.unrolled base bound) state =
          file (Production.read (File.nestingBound state.ahead.length)) state) ∧
    ∀ text error, File.parse text = .error error → error.fault ≠ .exhausted := by
  refine ⟨?_, ?_, ?_, ?_, ?_, ?_, ?_⟩
  · intro bound α parser rule state
    apply (rule.forward.before state).mono
    · exact fun _ _ before => before.ahead
    · exact fun _ _ before => before.ahead
  · exact fun bound production state _ _ run => (production.read_idle bound state).of_ok run
  · exact fun _ _ _ _ asks => asks.lower
  · exact fun _ _ _ _ round asks => round.reads asks
  · exact fun _ _ _ _ _ chain => chain.reads
  · exact fun base state _ enough => file_unrolled base state enough
  · exact fun _ _ failed => File.parse_unexhausted failed

/-- An argument that is a slice of slices: five questions lead to the type behind its first two
pairs of brackets.  The names of a list go on behind a comma and a name. -/
theorem Grammar.reading_ends_slices :
    let words (ahead : List Token) : ParserState :=
      { ahead, comments := [], lastStop := 0, level := 0, lines := LineIndex.ofText "[][]T,x" }
    let slices : ParserState := words
      [{ kind := .leftBracket, text := "[", offset := 0 },
        { kind := .rightBracket, text := "]", offset := 1 },
        { kind := .leftBracket, text := "[", offset := 2 },
        { kind := .rightBracket, text := "]", offset := 3 },
        { kind := .identifier, text := "T", offset := 4 }]
    let names : ParserState := words
      [{ kind := .comma, text := ",", offset := 5 },
        { kind := .identifier, text := "x", offset := 6 }]
    let behind (state : ParserState) : ParserState := state.advance.advance
    ((Production.read 9 .type).Ends slices (fun _ final => final.ahead <:+ slices.ahead)
      fun _ final => final.ahead <:+ slices.ahead) ∧
    (∃ names' final, Production.read 9 .identTail names = .ok names' final ∧
      (names' = [] ∨ final.ahead.length < names.ahead.length)) ∧
    ((behind slices).ahead.length < slices.ahead.length ∨
      (behind slices).ahead.length = slices.ahead.length ∧
        Production.rank .type < Production.rank .type) ∧
    (behind names).ahead.length < names.ahead.length ∧
    (behind (behind slices)).ahead.length + 1 ≤ slices.ahead.length ∧
    file (Production.unrolled (fun _ => Parser.fail .noCondition) 100) slices =
      file (Production.read 96) slices ∧
    ∃ error, File.parse "package" = .error error ∧ error.fault ≠ .exhausted := by
  intro words slices names behind
  obtain ⟨forward, results, questions, rounds, chains, bounds, faults⟩ := Grammar.reading_ends
  have expr : Production.Asks .arguments slices (.binary 1) slices := .of_first _ fun _ => rfl
  have unary : Production.Asks (.binary 1) slices .unary slices := .of_first _ fun _ => rfl
  have type : Production.Asks .unary slices .type slices := .of_first _ fun _ => rfl
  have element : Production.Asks .type slices .type (behind slices) := .of_first _ fun _ => rfl
  have inner : Production.Asks .type (behind slices) .type (behind (behind slices)) :=
    .of_first _ fun _ => rfl
  have further : Production.Asks .identTail names .identTail (behind names) :=
    .of_first _ fun _ => rfl
  have refused : (File.parse "package").isOk = false := by
    decide +kernel
  refine ⟨?_, ?_, ?_, ?_, ?_, ?_, ?_⟩
  · exact forward 9 _ _ (.production .type) slices
  · exact ⟨_, _, rfl, results 9 .identTail names _ _ rfl⟩
  · exact questions _ _ _ _ element
  · exact rounds _ _ _ _ .names further
  · exact chains 1 _ _ _ _
      (.step expr (.step unary (.step type (.step element (.step inner (.refl _ _))))))
  · exact bounds _ slices 100 (by decide)
  · cases parsed : File.parse "package" with
    | ok file =>
        rw [parsed] at refused
        cases refused
    | error error => exact ⟨error, rfl, faults _ _ parsed⟩

end GoMend
