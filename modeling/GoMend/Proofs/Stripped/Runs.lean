import Mathlib.Data.List.Forall2
import GoMend.Proofs.Grammar.Outcome
import GoMend.Proofs.Stripped.Tree

/-!
# Runs side by side

Two texts with the same words are read side by side: a parser is run on both, from states that
have read equally many words.  It ends in the same way on both sides, with results that are
related or with one fault at one word, again in such states.  Comments, lines and offsets differ
between the sides and decide nothing.
-/

namespace GoMend

/-- Two values that are the same when stripped. -/
abbrev SameBy {α β : Type} (strip : α → β) (value other : α) : Prop :=
  strip value = strip other

/-- Two words with the same category and spelling; how a semicolon came to stand makes no
difference. -/
structure Token.Alike (token other : Token) : Prop where
  kind : token.kind = other.kind
  text : token.kind = .semicolon ∨ token.text = other.text

namespace ParserState

theorem kind_token (state : ParserState) : state.token.kind = state.kind := by
  rw [token, kind]
  split <;> rfl

/-- Where the word of an index begins, or the end of the text. -/
def offsetAt (start : ParserState) (index : Nat) : Nat :=
  match start.ahead[index]? with
  | some token => token.offset
  | none => start.lines.size

/-- Two offsets, one on either side, at which the words of one index begin. -/
def Level (start start' : ParserState) (offset offset' : Nat) : Prop :=
  ∃ index ≤ start.ahead.length, offset = start.offsetAt index ∧ offset' = start'.offsetAt index

/-- Two states that have read equally many words since the start of either side. -/
structure Alongside (start start' state state' : ParserState) : Prop where
  words : List.Forall₂ Token.Alike state.ahead state'.ahead
  index : ∃ index ≤ start.ahead.length,
    state.ahead = start.ahead.drop index ∧ state'.ahead = start'.ahead.drop index
  level : state.level = state'.level
  lines : state.lines = start.lines
  lines' : state'.lines = start'.lines

namespace Alongside

variable {start start' state state' : ParserState}

theorem kind (along : Alongside start start' state state') : state.kind = state'.kind := by
  obtain ⟨ahead, _, _, _, _⟩ := state
  obtain ⟨ahead', _, _, _, _⟩ := state'
  have words : List.Forall₂ Token.Alike ahead ahead' := along.words
  cases words with
  | nil => rfl
  | cons alike _ => exact alike.kind

theorem advance (along : Alongside start start' state state') :
    Alongside start start' state.advance state'.advance := by
  have level : ∀ state : ParserState, state.advance.level = state.level := by
    intro state
    rw [ParserState.advance]
    split <;> rfl
  have lines : ∀ state : ParserState, state.advance.lines = state.lines := by
    intro state
    rw [ParserState.advance]
    split <;> rfl
  have words : List.Forall₂ Token.Alike state.ahead.tail state'.ahead.tail := by
    obtain ⟨ahead, _, _, _, _⟩ := state
    obtain ⟨ahead', _, _, _, _⟩ := state'
    have words : List.Forall₂ Token.Alike ahead ahead' := along.words
    cases words with
    | nil => exact .nil
    | cons _ rest => exact rest
  obtain ⟨index, inside, ahead, ahead'⟩ := along.index
  refine ⟨?_, ?_, ?_, ?_, ?_⟩
  · rw [ahead_advance, ahead_advance]
    exact words
  · rw [ahead_advance, ahead_advance]
    rcases Nat.lt_or_ge index start.ahead.length with before | atEnd
    · refine ⟨index + 1, before, ?_, ?_⟩
      · rw [ahead, List.tail_drop]
      · rw [ahead', List.tail_drop]
    · have none_ : state.ahead = [] := by rw [ahead, List.drop_eq_nil_of_le atEnd]
      have none' : state'.ahead = [] := by
        have words := along.words
        rw [none_, List.forall₂_nil_left_iff] at words
        exact words
      refine ⟨index, inside, ?_, ?_⟩
      · rw [none_, List.tail_nil, ← none_, ahead]
      · rw [none', List.tail_nil, ← none', ahead']
  · rw [level, level, along.level]
  · rw [lines, along.lines]
  · rw [lines, along.lines']

theorem secondKind (along : Alongside start start' state state') :
    state.secondKind = state'.secondKind := by
  rw [← kind_advance, ← kind_advance]
  exact along.advance.kind

theorem offset_eq {index : Nat} (ahead : state.ahead = start.ahead.drop index)
    (lines : state.lines = start.lines) : state.offset = start.offsetAt index := by
  rw [ParserState.offset, offsetAt, ahead, lines, ← List.head?_drop]
  cases start.ahead.drop index <;> rfl

theorem offset (along : Alongside start start' state state') :
    Level start start' state.offset state'.offset := by
  obtain ⟨index, inside, ahead, ahead'⟩ := along.index
  exact ⟨index, inside, offset_eq ahead along.lines, offset_eq ahead' along.lines'⟩

theorem token (along : Alongside start start' state state') :
    state.token.Alike state'.token := by
  obtain ⟨ahead, _, _, _, _⟩ := state
  obtain ⟨ahead', _, _, _, _⟩ := state'
  have words : List.Forall₂ Token.Alike ahead ahead' := along.words
  cases words with
  | nil => exact ⟨rfl, .inr rfl⟩
  | cons alike _ => exact alike

theorem token_offset (along : Alongside start start' state state') :
    Level start start' state.token.offset state'.token.offset := by
  have place : ∀ state : ParserState, state.token.offset = state.offset := by
    intro state
    rw [ParserState.token, ParserState.offset]
    split <;> rfl
  rw [place, place]
  exact along.offset

theorem setLevel (along : Alongside start start' state state') (level : Int) :
    Alongside start start' (state.setLevel level) (state'.setLevel level) :=
  ⟨along.words, along.index, rfl, along.lines, along.lines'⟩

theorem setComments (along : Alongside start start' state state')
    (comments comments' : List Token) :
    Alongside start start' (state.setComments comments) (state'.setComments comments') :=
  ⟨along.words, along.index, along.level, along.lines, along.lines'⟩

end Alongside

end ParserState

open ParserState (Alongside Level)

namespace Parser

variable {α β γ δ : Type} {start start' : ParserState}

/-- Two errors with one fault at one word. -/
structure Fails (start start' : ParserState) (error error' : SyntaxError) : Prop where
  fault : error.fault = error'.fault
  offset : Level start start' error.offset error'.offset

/-- Two ends of runs: both with results that are related, or both with an error. -/
inductive Together (start start' : ParserState) (related : α → β → Prop) :
    EStateM.Result SyntaxError ParserState α → EStateM.Result SyntaxError ParserState β → Prop where
  | ok {result result' state state'} : related result result' →
      Alongside start start' state state' →
      Together start start' related (.ok result state) (.ok result' state')
  | error {error error' state state'} : Fails start start' error error' →
      Alongside start start' state state' →
      Together start start' related (.error error state) (.error error' state')

/-- Two parsers that end together wherever they start side by side before words of the category. -/
def AgreesAt (start start' : ParserState) (kind : Kind) (related : α → β → Prop)
    (parser : Parser α) (parser' : Parser β) : Prop :=
  ∀ ⦃state state'⦄, Alongside start start' state state' → state.kind = kind →
    Together start start' related (parser state) (parser' state')

/-- Two parsers that end together wherever they start side by side. -/
def Agrees (start start' : ParserState) (related : α → β → Prop) (parser : Parser α)
    (parser' : Parser β) : Prop :=
  ∀ ⦃state state'⦄, Alongside start start' state state' →
    Together start start' related (parser state) (parser' state')

section

variable {related : α → β → Prop} {parser : Parser α} {parser' : Parser β}

namespace Agrees

theorem pure {result : α} {result' : β} (results : related result result') :
    Agrees start start' related (Pure.pure result) (Pure.pure result') :=
  fun _ _ along => .ok results along

theorem bind {followed : γ → δ → Prop} {next : α → Parser γ} {next' : β → Parser δ}
    (first : Agrees start start' related parser parser')
    (then_ : ∀ result result', related result result' →
      Agrees start start' followed (next result) (next' result')) :
    Agrees start start' followed (parser >>= next) (parser' >>= next') := by
  intro state state' along
  have ends := first along
  simp only [Bind.bind, EStateM.bind]
  revert ends
  generalize parser state = middle, parser' state' = middle'
  intro ends
  cases ends with
  | ok results along => exact then_ _ _ results along
  | error fails along => exact .error fails along

theorem ite {condition : Prop} [Decidable condition] {no : Parser α} {no' : Parser β}
    (yes : condition → Agrees start start' related parser parser')
    (otherwise : ¬condition → Agrees start start' related no no') :
    Agrees start start' related (if condition then parser else no)
      (if condition then parser' else no') := by
  split
  · exact yes ‹_›
  · exact otherwise ‹_›

/-- A choice between two ways to go on, by what is found on both sides. -/
theorem check {found found' : Parser Bool} {no : Parser α} {no' : Parser β}
    (same : Agrees start start' Eq found found')
    (yes : Agrees start start' related parser parser')
    (otherwise : Agrees start start' related no no') :
    Agrees start start' related (found >>= fun holds => if holds = true then parser else no)
      (found' >>= fun holds => if holds = true then parser' else no') := by
  refine same.bind fun holds holds' isSame => ?_
  subst isSame
  exact .ite (fun _ => yes) fun _ => otherwise

end Agrees

end

/-! ## Single words -/

/-- Two words of the category that spell the same, at one place. -/
structure Read (start start' : ParserState) (kind : Kind) (token token' : Token) : Prop where
  kind : token.kind = kind
  alike : token.Alike token'
  offset : Level start start' token.offset token'.offset

theorem Read.text {kind : Kind} {token token' : Token} (read : Read start start' kind token token')
    (spelled : kind ≠ .semicolon) : token.text = token'.text :=
  read.alike.text.resolve_left fun isSemicolon => spelled (read.kind.symm.trans isSemicolon)

theorem Read.toLiteral {kind : Kind} {token token' : Token}
    (read : Read start start' kind token token') (spelled : kind ≠ .semicolon)
    (literal : LiteralKind) :
    SameBy Literal.stripped (toLiteral literal token) (toLiteral literal token') :=
  congrArg (Literal.mk literal · none) (read.text spelled)

theorem agrees_peekSecond : Agrees start start' Eq peekSecond peekSecond :=
  fun _ _ along => .ok along.secondKind along

theorem agrees_at? (kind : Kind) : Agrees start start' Eq (at? kind) (at? kind) :=
  fun _ _ along => .ok (congrArg (· == kind) along.kind) along

theorem agrees_atAny (kinds : List Kind) : Agrees start start' Eq (atAny kinds) (atAny kinds) :=
  fun _ _ along => .ok (congrArg kinds.contains along.kind) along

theorem agrees_bump : Agrees start start'
    (fun token token' => ∃ kind, Read start start' kind token token') bump bump :=
  fun _ _ along => .ok ⟨_, rfl, along.token, along.token_offset⟩ along.advance

theorem agrees_eat (kind : Kind) : Agrees start start' Eq (eat kind) (eat kind) := by
  intro state state' along
  rw [eat, eat, along.kind]
  split
  · exact .ok rfl along.advance
  · exact .ok rfl along

theorem agrees_expect (kind : Kind) :
    Agrees start start' (Read start start' kind) (expect kind) (expect kind) := by
  intro state state' along
  have same := along.kind
  rw [expect, expect]
  split
  · rename_i found
    rw [if_pos (same ▸ found)]
    exact .ok ⟨state.kind_token.trans (beq_iff_eq.1 found), along.token, along.token_offset⟩
      along.advance
  · rename_i missed
    rw [if_neg (same ▸ missed)]
    exact .error ⟨rfl, along.offset⟩ along

theorem agrees_fail {related : α → β → Prop} (fault : SyntaxFault) :
    Agrees start start' related (fail fault) (fail fault) :=
  fun _ _ along => .error ⟨rfl, along.offset⟩ along

theorem agrees_failAt {related : α → β → Prop} {offset offset' : Nat} (fault : SyntaxFault)
    (level : Level start start' offset offset') :
    Agrees start start' related (failAt fault offset) (failAt fault offset') :=
  fun _ _ along => .error ⟨rfl, level⟩ along

theorem agrees_throw {related : α → β → Prop} {error error' : SyntaxError}
    (fails : Fails start start' error error') :
    Agrees start start' related (throw error) (throw error') :=
  fun _ _ along => .error fails along

section

variable {related : α → β → Prop} {parser : Parser α} {parser' : Parser β}

/-- What is read next may depend on the next word. -/
theorem agrees_peek {next : Kind → Parser α} {next' : Kind → Parser β}
    (each : ∀ kind, AgreesAt start start' kind related (next kind) (next' kind)) :
    Agrees start start' related (peek >>= next) (peek >>= next') := by
  intro state state' along
  change Together start start' related (next state.kind state) (next' state'.kind state')
  rw [← along.kind]
  exact each state.kind along rfl

theorem Agrees.at {kind : Kind} (agrees : Agrees start start' related parser parser') :
    AgreesAt start start' kind related parser parser' :=
  fun _ _ along _ => agrees along

/-- A word that was looked at is read. -/
theorem agreesAt_bump {kind : Kind} {next : Token → Parser α} {next' : Token → Parser β}
    (each : ∀ token token', Read start start' kind token token' →
      Agrees start start' related (next token) (next' token')) :
    AgreesAt start start' kind related (bump >>= next) (bump >>= next') := by
  intro state state' along found
  exact each _ _ ⟨state.kind_token.trans found, along.token, along.token_offset⟩ along.advance

/-- A choice by the category of the next word. -/
theorem Agrees.checkAt {kind : Kind} {no : Parser α} {no' : Parser β}
    (yes : AgreesAt start start' kind related parser parser')
    (otherwise : Agrees start start' related no no') :
    Agrees start start' related (at? kind >>= fun found => if found = true then parser else no)
      (at? kind >>= fun found => if found = true then parser' else no') := by
  intro state state' along
  change Together start start' related
    ((if (state.kind == kind) = true then parser else no) state)
    ((if (state'.kind == kind) = true then parser' else no') state')
  rw [← along.kind]
  split
  · rename_i found
    exact yes along (beq_iff_eq.1 found)
  · exact otherwise along

end

theorem agrees_expectSemicolon : Agrees start start' Eq expectSemicolon expectSemicolon :=
  .check (agrees_eat _) (.pure rfl) (.check (agrees_atAny _) (.pure rfl)
    (agrees_peek fun _ => (agrees_fail _).at))

theorem agrees_ident : Agrees start start' (SameBy Ident.stripped) ident ident :=
  (agrees_expect .identifier).bind fun _ _ read => .pure
    (congrArg (Ident.mk · none) (read.text (by decide)))

/-! ## Levels, faults as values, and comments -/

section

variable {related : α → β → Prop} {parser : Parser α} {parser' : Parser β}

/-- Two values of runs: both results that are related, or both errors. -/
inductive Outcomes (start start' : ParserState) (related : α → β → Prop) :
    Except SyntaxError α → Except SyntaxError β → Prop where
  | ok {result result'} : related result result' →
      Outcomes start start' related (.ok result) (.ok result')
  | error {error error'} : Fails start start' error error' →
      Outcomes start start' related (.error error) (.error error')

theorem Agrees.outcome (agrees : Agrees start start' related parser parser') :
    Agrees start start' (Outcomes start start' related) (outcome parser)
      (Parser.outcome parser') := by
  intro state state' along
  have ends := agrees along
  rw [Parser.outcome, Parser.outcome]
  revert ends
  generalize parser state = final, parser' state' = final'
  intro ends
  cases ends with
  | ok results along => exact .ok (.ok results) along
  | error fails along => exact .ok (.error fails) along

theorem agrees_get :
    Agrees start start' (Alongside start start') (get : Parser ParserState) get :=
  fun _ _ along => .ok along along

theorem agrees_level : Agrees start start' Eq level level :=
  fun _ _ along => .ok along.level along

theorem agrees_setLevel (level : Int) :
    Agrees start start' Eq (setLevel level) (setLevel level) :=
  fun _ _ along => .ok rfl (along.setLevel level)

theorem Agrees.atLevel (enter : Int → Int) (leave : Int → Int → Int)
    (agrees : Agrees start start' related parser parser') :
    Agrees start start' related (atLevel enter leave parser)
      (Parser.atLevel enter leave parser') := by
  intro state state' along
  have ends := agrees (along.setLevel (enter state.level))
  rw [Parser.atLevel, Parser.atLevel, ← along.level]
  revert ends
  generalize parser (state.setLevel (enter state.level)) = final,
    parser' (state'.setLevel (enter state.level)) = final'
  intro ends
  cases ends with
  | ok results within =>
      simp only [within.level]
      exact .ok results (within.setLevel _)
  | error fails within =>
      simp only [within.level]
      exact .error fails (within.setLevel _)

theorem Agrees.nested (agrees : Agrees start start' related parser parser') :
    Agrees start start' related (nested parser) (Parser.nested parser') :=
  agrees.atLevel _ _

theorem Agrees.fresh (agrees : Agrees start start' related parser parser') :
    Agrees start start' related (fresh parser) (Parser.fresh parser') :=
  agrees.atLevel _ _

/-- The level that is kept aside and put back is the same on both sides. -/
theorem Agrees.restored {γ δ : Type} {among : γ → δ → Prop} {level : Int} {first : Int → Parser γ}
    {first' : Int → Parser δ} {next : γ → Parser α} {next' : δ → Parser β}
    (begin : ∀ saved, Agrees start start' among (first saved) (first' saved))
    (each : ∀ result result', among result result' →
      Agrees start start' related (next result) (next' result')) :
    Agrees start start' related
      (Parser.level >>= fun saved => setLevel level >>= fun _ =>
        first saved >>= fun result => setLevel saved >>= fun _ => next result)
      (Parser.level >>= fun saved => setLevel level >>= fun _ =>
        first' saved >>= fun result => setLevel saved >>= fun _ => next' result) := by
  apply agrees_level.bind
  rintro saved _ rfl
  apply (agrees_setLevel level).bind
  intro _ _ _
  apply (begin saved).bind
  intro result result' related
  apply (agrees_setLevel saved).bind
  intro _ _ _
  exact each result result' related

end

theorem agrees_takeDoc : Agrees start start' (fun _ _ => True) takeDoc takeDoc :=
  fun _ _ along => .ok trivial (along.setComments _ _)

theorem agrees_takeTrailing : Agrees start start' (fun _ _ => True) takeTrailing takeTrailing := by
  intro state state' along
  obtain ⟨_, _, taken⟩ := takeTrailing_run state
  obtain ⟨_, _, taken'⟩ := takeTrailing_run state'
  rw [taken, taken']
  exact .ok trivial (along.setComments _ _)

theorem agrees_takeRemaining :
    Agrees start start' (fun _ _ => True) takeRemaining takeRemaining :=
  fun _ _ along => .ok trivial (along.setComments _ _)

end Parser

end GoMend
