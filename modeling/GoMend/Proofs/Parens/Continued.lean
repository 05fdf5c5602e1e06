import Mathlib.Data.List.Basic
import GoMend.Proofs.Grammar.Rule

/-!
# Words that follow

A parser that has given a result gives it again where more words follow those it was started on,
unless it took their end for the end of the text.  No parser does so while a word remains.  At the
end itself many do the same as before a closing parenthesis, and some need a word there and fail.
-/

namespace GoMend

/-- Words that follow those of a state: none, or such as begin with a closing parenthesis. -/
structure Closing where
  words : List Token
  closed : ∀ token ∈ words.head?, token.kind = .rightParen

/-- Literals are free at both levels, or the levels are the same. -/
def SameFreedom (level level' : Int) : Prop :=
  level' = level ∨ 0 ≤ level ∧ 0 ≤ level'

namespace ParserState

/-- The second state is the first with more words behind. -/
structure Continues (more : Closing) (state state' : ParserState) : Prop where
  ahead : state'.ahead = state.ahead ++ more.words
  comments : state'.comments = state.comments
  lastStop : state'.lastStop = state.lastStop
  lines : state'.lines = state.lines
  level : SameFreedom state.level state'.level

/-- A word remains, or no word follows behind the last. -/
def Inside (more : Closing) (state : ParserState) : Prop :=
  state.ahead ≠ [] ∨ more.words = []

/-- The state with more words behind. -/
def continued (more : Closing) (state : ParserState) : ParserState :=
  { state with ahead := state.ahead ++ more.words }

variable {more : Closing} {state state' final : ParserState}

theorem continues_continued : Continues more state (state.continued more) :=
  ⟨rfl, rfl, rfl, rfl, .inl rfl⟩

theorem kind_of_nil (nothing : state.ahead = []) : state.kind = .endOfFile := by
  rw [kind, nothing]

theorem Before.inside (before : state.Before final) (inside : final.Inside more) :
    state.Inside more := by
  refine inside.imp_left fun some nothing => some ?_
  exact List.suffix_nil.1 (nothing ▸ before.ahead)

namespace Continues

variable (continues : Continues more state state')

include continues

/-- At the end of the first words the second state stands at its own end or before a closing
parenthesis. -/
theorem kind_at_end (nothing : state.ahead = []) :
    state'.kind = .endOfFile ∨ state'.kind = .rightParen := by
  have ahead := continues.ahead
  rw [nothing, List.nil_append] at ahead
  rw [kind, ahead]
  have closed := more.closed
  revert closed
  cases more.words with
  | nil => exact fun _ => .inl rfl
  | cons token rest => exact fun closed => .inr (closed token rfl)

theorem setLevel {level level' : Int} (levels : SameFreedom level level') :
    Continues more (state.setLevel level) (state'.setLevel level') :=
  ⟨continues.ahead, continues.comments, continues.lastStop, continues.lines, levels⟩

theorem setComments (comments : List Token) :
    Continues more (state.setComments comments) (state'.setComments comments) :=
  ⟨continues.ahead, rfl, continues.lastStop, continues.lines, continues.level⟩

theorem free_iff : 0 ≤ state.level ↔ 0 ≤ state'.level := by
  rcases continues.level with same | ⟨free, free'⟩
  · rw [same]
  · exact iff_of_true free free'

/-- Whether a word of the category comes next is the same in both states, closing parentheses
apart. -/
theorem kind_eq_iff {kind : Kind} (apart : kind ∉ [Kind.endOfFile, .rightParen]) :
    state'.kind = kind ↔ state.kind = kind := by
  obtain ⟨notEnd, notClosing⟩ : kind ≠ .endOfFile ∧ kind ≠ .rightParen := by simpa using apart
  cases words : state.ahead with
  | nil =>
      have found : state'.kind ≠ kind := by
        rcases continues.kind_at_end words with atEnd | closing
        · exact fun same => notEnd (same.symm.trans atEnd)
        · exact fun same => notClosing (same.symm.trans closing)
      exact iff_of_false found fun same => notEnd (same.symm.trans (kind_of_nil words))
  | cons token rest =>
      have ahead := continues.ahead
      rw [words] at ahead
      rw [ParserState.kind, ParserState.kind, words, ahead, List.cons_append]

variable (inside : state.Inside more)

include inside

/-- Either state has a next word, which is the same, or neither has. -/
theorem cases_ahead : state.ahead = [] ∧ state'.ahead = [] ∨
    ∃ token rest, state.ahead = token :: rest ∧ state'.ahead = token :: (rest ++ more.words) := by
  have ahead := continues.ahead
  cases words : state.ahead with
  | nil =>
      have noMore := inside.resolve_left (· words)
      rw [words, noMore] at ahead
      exact .inl ⟨rfl, ahead⟩
  | cons token rest =>
      rw [words] at ahead
      exact .inr ⟨token, rest, rfl, ahead⟩

theorem kind : state'.kind = state.kind := by
  rw [ParserState.kind, ParserState.kind]
  rcases continues.cases_ahead inside with ⟨words, words'⟩ | ⟨token, rest, words, words'⟩
  all_goals rw [words, words']

theorem token : state'.token = state.token := by
  rw [ParserState.token, ParserState.token, continues.lines]
  rcases continues.cases_ahead inside with ⟨words, words'⟩ | ⟨token, rest, words, words'⟩
  all_goals rw [words, words']

theorem offset : state'.offset = state.offset := by
  rw [ParserState.offset, ParserState.offset, continues.lines]
  rcases continues.cases_ahead inside with ⟨words, words'⟩ | ⟨token, rest, words, words'⟩
  all_goals rw [words, words']

theorem advance : Continues more state.advance state'.advance := by
  rw [ParserState.advance, ParserState.advance]
  rcases continues.cases_ahead inside with ⟨words, words'⟩ | ⟨token, rest, words, words'⟩
  · rw [words, words']
    exact continues
  · rw [words, words']
    dsimp only
    rw [continues.lastStop]
    exact ⟨rfl, continues.comments, rfl, continues.lines, continues.level⟩

/-- Behind the last word the second state may have a closing parenthesis. -/
theorem secondKind : state'.secondKind = state.secondKind ∨
    state.secondKind = .endOfFile ∧ state'.secondKind = .rightParen := by
  rw [← kind_advance, ← kind_advance]
  have continues := continues.advance inside
  by_cases nothing : state.advance.ahead = []
  · rw [kind_of_nil nothing]
    exact (continues.kind_at_end nothing).imp_right (⟨rfl, ·⟩)
  · exact .inl (continues.kind (.inl nothing))

end Continues

end ParserState

open ParserState (Continues Inside)

namespace Parser

variable {α β : Type} {more : Closing}

theorem bind_eq_ok_iff {first : Parser α} {next : α → Parser β} {state final : ParserState}
    {result : β} : (first >>= next) state = .ok result final ↔
      ∃ value middle, first state = .ok value middle ∧ next value middle = .ok result final := by
  simp only [bind, EStateM.bind]
  cases first state with
  | ok value middle => simp
  | error error middle => simp

/-- Whatever the first parser gives from a state to another, if these are as said, the second
parser gives where more words follow. -/
def Follows (more : Closing) (among : ParserState → ParserState → Prop)
    (parser parser' : Parser α) : Prop :=
  ∀ ⦃state state' result final⦄, Continues more state state' → parser state = .ok result final →
    among state final → ∃ final', parser' state' = .ok result final' ∧ Continues more final final'

/-- More words may follow wherever the parser stops before the last. -/
class Carries (more : Closing) (parser parser' : Parser α) : Prop where
  forward : Forward parser
  follows : Follows more (fun _ final => final.Inside more) parser parser'

/-- More words may follow wherever the parser starts before the last. -/
abbrev Opens (more : Closing) : Parser α → Parser α → Prop :=
  Follows more fun state _ => state.Inside more

/-- More words may follow everywhere. -/
abbrev Closes (more : Closing) : Parser α → Parser α → Prop :=
  Follows more fun _ _ => True

/-- The parser gives nothing behind the last word. -/
def Starves (parser : Parser α) : Prop :=
  ∀ state, state.ahead = [] → parser.Ends state (fun _ _ => False) fun _ _ => True

variable {parser parser' : Parser α}

theorem Closes.opens (closes : Closes more parser parser') : Opens more parser parser' :=
  fun _ _ _ _ continues run _ => closes continues run trivial

theorem Carries.of_opens [forward : Forward parser] (opens : Opens more parser parser') :
    Carries more parser parser' where
  forward := forward
  follows state _ _ _ continues run inside :=
    opens continues run (((forward.before state).of_ok run).inside inside)

theorem Closes.of_opens (opens : Opens more parser parser') (starves : Starves parser) :
    Closes more parser parser' := by
  intro state state' result final continues run _
  have some : state.ahead ≠ [] := fun nothing => (starves state nothing).of_ok run
  exact opens continues run (.inl some)

/-! ## One parser after another -/

theorem Carries.bind {first first' : Parser α} {next next' : α → Parser β}
    [carries : Carries more first first']
    (each : ∀ result, Carries more (next result) (next' result)) :
    Carries more (first >>= next) (first' >>= next') where
  forward :=
    have := carries.forward
    .bind fun result => (each result).forward
  follows state state' result final continues run inside := by
    obtain ⟨value, middle, first_, next_⟩ := bind_eq_ok_iff.1 run
    have before := ((each value).forward.before middle).of_ok next_
    obtain ⟨middle', first', continues⟩ :=
      carries.follows continues first_ (before.inside inside)
    obtain ⟨final', next', continues⟩ := (each value).follows continues next_ inside
    exact ⟨final', bind_eq_ok_iff.2 ⟨value, middle', first', next'⟩, continues⟩

theorem Opens.bind {first first' : Parser α} {next next' : α → Parser β}
    (opens : Opens more first first')
    (closes : ∀ result, Closes more (next result) (next' result)) :
    Opens more (first >>= next) (first' >>= next') := by
  intro state state' result final continues run inside
  obtain ⟨value, middle, first_, next_⟩ := bind_eq_ok_iff.1 run
  obtain ⟨middle', first', continues⟩ := opens continues first_ inside
  obtain ⟨final', next', continues⟩ := closes value continues next_ trivial
  exact ⟨final', bind_eq_ok_iff.2 ⟨value, middle', first', next'⟩, continues⟩

theorem Closes.bind {first first' : Parser α} {next next' : α → Parser β}
    (closes : Closes more first first')
    (each : ∀ result, Closes more (next result) (next' result)) :
    Closes more (first >>= next) (first' >>= next') := by
  intro state state' result final continues run _
  obtain ⟨value, middle, first_, next_⟩ := bind_eq_ok_iff.1 run
  obtain ⟨middle', first', continues⟩ := closes continues first_ trivial
  obtain ⟨final', next', continues⟩ := each value continues next_ trivial
  exact ⟨final', bind_eq_ok_iff.2 ⟨value, middle', first', next'⟩, continues⟩

/-- A parser that stops before a word which is then required. -/
theorem Closes.before {first first' : Parser α} {next next' : α → Parser β}
    [carries : Carries more first first'] (starves : ∀ result, Starves (next result))
    (opens : ∀ result, Opens more (next result) (next' result)) :
    Closes more (first >>= next) (first' >>= next') := by
  intro state state' result final continues run _
  obtain ⟨value, middle, first_, next_⟩ := bind_eq_ok_iff.1 run
  have some : middle.ahead ≠ [] := fun nothing => (starves value middle nothing).of_ok next_
  obtain ⟨middle', first', continues⟩ := carries.follows continues first_ (.inl some)
  obtain ⟨final', next', continues⟩ := opens value continues next_ (.inl some)
  exact ⟨final', bind_eq_ok_iff.2 ⟨value, middle', first', next'⟩, continues⟩

theorem Follows.ite {among : ParserState → ParserState → Prop} {condition : Prop}
    [Decidable condition] {no no' : Parser α} (yes : Follows more among parser parser')
    (otherwise : Follows more among no no') : Follows more among
      (if condition then parser else no) (if condition then parser' else no') := by
  split
  · exact yes
  · exact otherwise

theorem Follows.pure {among : ParserState → ParserState → Prop} (result : α) :
    Follows more among (Pure.pure result) (Pure.pure result) := by
  intro state state' value final continues run _
  cases run
  exact ⟨state', rfl, continues⟩

/-- Nothing is asked of a parser that gives nothing. -/
theorem Follows.of_fails {among : ParserState → ParserState → Prop}
    (fails : ∀ state, parser.Ensures state fun _ _ => False) : Follows more among parser parser' :=
  fun state _ _ _ _ run _ => ((fails state).of_ok run).elim

instance {result : α} : Carries more (pure result : Parser α) (pure result) :=
  ⟨inferInstance, .pure result⟩

instance {fault : SyntaxFault} : Carries more (fail fault : Parser α) (fail fault) :=
  ⟨inferInstance, .of_fails fun _ => trivial⟩

instance {fault : SyntaxFault} {offset : Nat} :
    Carries more (failAt fault offset : Parser α) (failAt fault offset) :=
  ⟨inferInstance, .of_fails fun _ => trivial⟩

instance {error : SyntaxError} : Carries more (throw error : Parser α) (throw error) :=
  ⟨inferInstance, .of_fails fun _ => trivial⟩

instance {fault : SyntaxFault} {level level' : Int} :
    Carries more (setLevel level >>= fun _ => (fail fault : Parser α))
      (setLevel level' >>= fun _ => fail fault) :=
  ⟨inferInstance, .of_fails fun _ => trivial⟩

instance {first first' : Parser α} {next next' : α → Parser β} [Carries more first first']
    [∀ result, Carries more (next result) (next' result)] :
    Carries more (first >>= next) (first' >>= next') :=
  .bind inferInstance

instance {condition : Prop} [Decidable condition] {yes yes' no no' : Parser α}
    [Carries more yes yes'] [Carries more no no'] :
    Carries more (if condition then yes else no) (if condition then yes' else no') := by
  split <;> infer_instance

/-! ## Single words -/

theorem opens_peek : Opens more peek peek := by
  intro state state' result final continues run inside
  cases run
  exact ⟨state', congrArg (EStateM.Result.ok · state') (continues.kind inside), continues⟩

theorem opens_at? {kind : Kind} : Opens more (at? kind) (at? kind) := by
  intro state state' result final continues run inside
  cases run
  refine ⟨state', ?_, continues⟩
  rw [at?, continues.kind inside]

theorem opens_atAny {kinds : List Kind} : Opens more (atAny kinds) (atAny kinds) := by
  intro state state' result final continues run inside
  cases run
  refine ⟨state', ?_, continues⟩
  rw [atAny, continues.kind inside]

theorem opens_bump : Opens more bump bump := by
  intro state state' result final continues run inside
  cases run
  refine ⟨state'.advance, ?_, continues.advance inside⟩
  rw [bump, continues.token inside]

theorem opens_eat {kind : Kind} : Opens more (eat kind) (eat kind) := by
  intro state state' result final continues run inside
  rw [eat] at run ⊢
  rw [continues.kind inside]
  split at run
  · rename_i found
    cases run
    rw [if_pos found]
    exact ⟨state'.advance, rfl, continues.advance inside⟩
  · rename_i missed
    cases run
    rw [if_neg missed]
    exact ⟨state', rfl, continues⟩

theorem opens_expect {kind : Kind} : Opens more (expect kind) (expect kind) := by
  intro state state' result final continues run inside
  rw [expect] at run ⊢
  rw [continues.kind inside, continues.token inside]
  split at run
  · rename_i found
    cases run
    rw [if_pos found]
    exact ⟨state'.advance, rfl, continues.advance inside⟩
  · cases run

theorem opens_takeDoc : Opens more takeDoc takeDoc := by
  intro state state' result final continues run inside
  cases run
  rw [takeDoc, continues.comments, continues.offset inside]
  exact ⟨_, rfl, continues.setComments _⟩

theorem opens_takeTrailing : Opens more takeTrailing takeTrailing := by
  intro state state' result final continues run inside
  rw [takeTrailing] at run ⊢
  rw [continues.comments, continues.lastStop, continues.lines, continues.offset inside]
  split at run
  · cases run
    exact ⟨state', rfl, continues⟩
  · split at run
    · rename_i found
      cases run
      rw [if_pos found]
      exact ⟨_, rfl, continues.ahead, rfl, rfl, rfl, continues.level⟩
    · rename_i missed
      cases run
      rw [if_neg missed]
      exact ⟨state', rfl, continues⟩

instance : Carries more peek peek := .of_opens opens_peek

instance {kind : Kind} : Carries more (at? kind) (at? kind) := .of_opens opens_at?

instance {kinds : List Kind} : Carries more (atAny kinds) (atAny kinds) := .of_opens opens_atAny

instance : Carries more bump bump := .of_opens opens_bump

instance {kind : Kind} : Carries more (eat kind) (eat kind) := .of_opens opens_eat

instance {kind : Kind} : Carries more (expect kind) (expect kind) := .of_opens opens_expect

instance : Carries more takeDoc takeDoc := .of_opens opens_takeDoc

instance : Carries more takeTrailing takeTrailing := .of_opens opens_takeTrailing

instance : Carries more expectSemicolon expectSemicolon := by
  unfold expectSemicolon
  infer_instance

instance : Carries more ident ident := by
  unfold ident
  infer_instance

/-! ### Looking at a word -/

theorem Opens.peek {next next' : Kind → Parser α}
    (each : ∀ kind, Opens more (next kind) (next' kind)) :
    Opens more (peek >>= next) (peek >>= next') := by
  intro state state' result final continues run inside
  change ∃ final', next' state'.kind state' = .ok result final' ∧ _
  rw [continues.kind inside]
  exact each state.kind continues run inside

theorem Starves.peek {next : Kind → Parser α} (starves : Starves (next .endOfFile)) :
    Starves (peek >>= next) := by
  intro state nothing
  rw [ends_bind, ends_peek, ParserState.kind_of_nil nothing]
  exact starves state nothing

/-- A parser that stops where no word remains stops before a closing parenthesis. -/
theorem Closes.peek {next next' : Kind → Parser α} {result : α}
    (each : ∀ kind, Opens more (next kind) (next' kind))
    (stops : next .endOfFile = Pure.pure result)
    (stops' : ∀ kind ∈ [Kind.endOfFile, .rightParen], next' kind = Pure.pure result) :
    Closes more (Parser.peek >>= next) (Parser.peek >>= next') := by
  intro state state' value final continues run _
  by_cases nothing : state.ahead = []
  · change next state.kind state = .ok value final at run
    change ∃ final', next' state'.kind state' = .ok value final' ∧ _
    have atEnd : state'.kind ∈ [Kind.endOfFile, .rightParen] := by
      simpa using continues.kind_at_end nothing
    rw [stops' _ atEnd]
    rw [ParserState.kind_of_nil nothing, stops] at run
    cases run
    exact ⟨state', rfl, continues⟩
  · exact Opens.peek each continues run (.inl nothing)

/-- Behind the last word a closing parenthesis is looked at in place of the end of the text. -/
theorem Opens.peekSecond {next next' : Kind → Parser α}
    (each : ∀ kind, Opens more (next kind) (next' kind))
    (same : next' .endOfFile = next' .rightParen) :
    Opens more (peekSecond >>= next) (peekSecond >>= next') := by
  intro state state' result final continues run inside
  change next state.secondKind state = .ok result final at run
  change ∃ final', next' state'.secondKind state' = .ok result final' ∧ _
  obtain ⟨final', run', continues'⟩ := each state.secondKind continues run inside
  refine ⟨final', ?_, continues'⟩
  rcases continues.secondKind inside with second | ⟨atEnd, closing⟩
  · rw [second]
    exact run'
  · rw [closing, ← same, ← atEnd]
    exact run'

theorem Carries.peekSecond {next next' : Kind → Parser α}
    (each : ∀ kind, Carries more (next kind) (next' kind))
    (same : next' .endOfFile = next' .rightParen) :
    Carries more (Parser.peekSecond >>= next) (Parser.peekSecond >>= next') where
  forward := .bind fun kind => (each kind).forward
  follows state state' result final continues run inside := by
    change next state.secondKind state = .ok result final at run
    change ∃ final', next' state'.secondKind state' = .ok result final' ∧ _
    have before := ((each state.secondKind).forward.before state).of_ok run
    obtain ⟨final', run', continues'⟩ := (each state.secondKind).follows continues run inside
    refine ⟨final', ?_, continues'⟩
    rcases continues.secondKind (before.inside inside) with second | ⟨atEnd, closing⟩
    · rw [second]
      exact run'
    · rw [closing, ← same, ← atEnd]
      exact run'

/-- What is looked at in a state is the same in both states. -/
theorem Follows.get {among : ParserState → ParserState → Prop}
    {next next' : ParserState → Parser α}
    (each : ∀ state state', Continues more state state' →
      Follows more among (next state) (next' state')) :
    Follows more among (MonadState.get >>= next) (MonadState.get >>= next') :=
  fun state state' _ _ continues run condition =>
    each state state' continues continues run condition

theorem Carries.get {next next' : ParserState → Parser α}
    (each : ∀ state state', Continues more state state' →
      Carries more (next state) (next' state')) :
    Carries more (MonadState.get >>= next) (MonadState.get >>= next') where
  forward := .bind fun state => (each state _ ParserState.continues_continued).forward
  follows := .get fun state state' continues => (each state state' continues).follows

/-! ### The end of the words -/

theorem closes_at? {kind : Kind} (apart : kind ∉ [Kind.endOfFile, .rightParen]) :
    Closes more (at? kind) (at? kind) := by
  intro state state' result final continues run _
  cases run
  have same : (state'.kind == kind) = (state.kind == kind) := by
    rw [Bool.eq_iff_iff, beq_iff_eq, beq_iff_eq]
    exact continues.kind_eq_iff apart
  exact ⟨state', congrArg (EStateM.Result.ok · state') same, continues⟩

theorem closes_eat {kind : Kind} (apart : kind ∉ [Kind.endOfFile, .rightParen]) :
    Closes more (eat kind) (eat kind) := by
  intro state state' result final continues run _
  by_cases nothing : state.ahead = []
  · have missed : ¬state.kind = kind := by
      rw [ParserState.kind_of_nil nothing]
      exact fun atEnd => apart (by simp [← atEnd])
    have missed' : ¬state'.kind = kind := (continues.kind_eq_iff apart).not.2 missed
    rw [eat, if_neg (by simpa using missed)] at run
    cases run
    exact ⟨state', by rw [eat, if_neg (by simpa using missed')], continues⟩
  · exact opens_eat continues run (.inl nothing)

theorem starves_expect {kind : Kind} (some : kind ≠ .endOfFile) : Starves (expect kind) := by
  intro state nothing
  rw [ends_expect, ParserState.kind_of_nil nothing]
  exact ⟨fun atEnd => some atEnd.symm, fun _ => trivial⟩

theorem Starves.bind {first : Parser α} {next : α → Parser β} (starves : Starves first) :
    Starves (first >>= next) := by
  intro state nothing
  rw [ends_bind]
  exact (starves state nothing).mono (fun _ _ => False.elim) fun _ _ _ => trivial

theorem Starves.takeDoc {next : List Comment → Parser α}
    (starves : ∀ comments, Starves (next comments)) : Starves (Parser.takeDoc >>= next) := by
  intro state nothing
  rw [ends_bind, ends_takeDoc]
  exact starves _ _ nothing

theorem closes_expect {kind : Kind} (some : kind ≠ .endOfFile) :
    Closes more (expect kind) (expect kind) :=
  .of_opens opens_expect (starves_expect some)

theorem closes_ident : Closes more ident ident :=
  .bind (closes_expect (by decide)) fun _ => .pure _

/-! ## Levels and faults as values -/

theorem atLevel_eq_ok_iff {enter : Int → Int} {leave : Int → Int → Int}
    {state final : ParserState} {result : α} :
    atLevel enter leave parser state = .ok result final ↔
      ∃ inner, parser (state.setLevel (enter state.level)) = .ok result inner ∧
        final = inner.setLevel (leave state.level inner.level) := by
  simp only [atLevel]
  cases parser (state.setLevel (enter state.level)) with
  | ok value inner =>
      constructor
      · rintro ⟨⟩
        exact ⟨inner, rfl, rfl⟩
      · rintro ⟨_, ⟨⟩, rfl⟩
        rfl
  | error error inner =>
      constructor
      · rintro ⟨⟩
      · rintro ⟨_, ⟨⟩, -⟩

theorem Follows.fresh {among among' : ParserState → ParserState → Prop}
    (follows : Follows more among parser parser')
    (within : ∀ {state inner}, among' state (inner.setLevel state.level) →
      among (state.setLevel 0) inner) :
    Follows more among' (fresh parser) (Parser.fresh parser') := by
  intro state state' result final continues run condition
  obtain ⟨inner, inside, rfl⟩ := atLevel_eq_ok_iff.1 run
  obtain ⟨inner', inside', continues'⟩ :=
    follows (continues.setLevel (.inl rfl)) inside (within condition)
  exact ⟨_, atLevel_eq_ok_iff.2 ⟨inner', inside', rfl⟩, continues'.setLevel continues.level⟩

instance [carries : Carries more parser parser'] : Carries more (fresh parser) (fresh parser') where
  forward :=
    have := carries.forward
    inferInstance
  follows := carries.follows.fresh id

/-- Both inner parsers leave the level one further in, so lowering it by one undoes raising it. -/
instance [carries : Carries more parser parser'] [steady : Steady parser]
    [steady' : Steady parser'] : Carries more (nested parser) (nested parser') where
  forward :=
    have := carries.forward
    inferInstance
  follows state state' result final continues run inside := by
    obtain ⟨inner, isInner, rfl⟩ := atLevel_eq_ok_iff.1 run
    have raised : SameFreedom (state.level + 1) (state'.level + 1) :=
      continues.level.imp (congrArg (· + 1)) fun free =>
        ⟨Int.le_add_one free.1, Int.le_add_one free.2⟩
    obtain ⟨inner', isInner', continues'⟩ :=
      carries.follows (continues.setLevel raised) isInner inside
    have level : inner.level = state.level + 1 := (steady.same _).of_ok isInner
    have level' : inner'.level = state'.level + 1 := (steady'.same _).of_ok isInner'
    refine ⟨_, atLevel_eq_ok_iff.2 ⟨inner', isInner', rfl⟩, continues'.setLevel ?_⟩
    rw [level, level', Int.add_sub_cancel, Int.add_sub_cancel]
    exact continues.level

theorem Closes.fresh (closes : Closes more parser parser') :
    Closes more (Parser.fresh parser) (Parser.fresh parser') :=
  Follows.fresh closes id

theorem restored_eq_ok_iff {level : Int} {first : Int → Parser α} {next : α → Parser β}
    {state final : ParserState} {result : β} :
    (Parser.level >>= fun saved => setLevel level >>= fun _ =>
        first saved >>= fun value => setLevel saved >>= fun _ => next value) state =
          .ok result final ↔
      ∃ value middle, first state.level (state.setLevel level) = .ok value middle ∧
        next value (middle.setLevel state.level) = .ok result final := by
  simp only [bind, EStateM.bind, Parser.level, setLevel]
  cases first state.level (state.setLevel level) <;> simp

theorem Carries.restored {level : Int} {first first' : Int → Parser α} {next next' : α → Parser β}
    (carries : ∀ saved saved', Carries more (first saved) (first' saved'))
    (each : ∀ result, Carries more (next result) (next' result)) :
    Carries more
      (Parser.level >>= fun saved => setLevel level >>= fun _ =>
        first saved >>= fun result => setLevel saved >>= fun _ => next result)
      (Parser.level >>= fun saved => setLevel level >>= fun _ =>
        first' saved >>= fun result => setLevel saved >>= fun _ => next' result) where
  forward :=
    have := fun saved => (carries saved saved).forward
    have := fun result => (each result).forward
    inferInstance
  follows state state' result final continues run inside := by
    obtain ⟨value, middle, first_, next_⟩ := restored_eq_ok_iff.1 run
    have before := ((each value).forward.before _).of_ok next_
    obtain ⟨middle', first', continues'⟩ := (carries state.level state'.level).follows
      (continues.setLevel (.inl rfl)) first_ (before.inside inside)
    obtain ⟨final', next', continues''⟩ :=
      (each value).follows (continues'.setLevel continues.level) next_ inside
    exact ⟨final', restored_eq_ok_iff.2 ⟨value, middle', first', next'⟩, continues''⟩

instance {level : Int} {first first' : Int → Parser α} {next next' : α → Parser β}
    [carries : ∀ saved saved', Carries more (first saved) (first' saved')]
    [each : ∀ result, Carries more (next result) (next' result)] :
    Carries more
      (Parser.level >>= fun saved => setLevel level >>= fun _ =>
        first saved >>= fun result => setLevel saved >>= fun _ => next result)
      (Parser.level >>= fun saved => setLevel level >>= fun _ =>
        first' saved >>= fun result => setLevel saved >>= fun _ => next' result) :=
  .restored carries each

/-- A parser that stops before a word which is required once the level was put back. -/
theorem Closes.restored {level : Int} {first first' : Int → Parser α} {next next' : α → Parser β}
    (carries : ∀ saved saved', Carries more (first saved) (first' saved'))
    (starves : ∀ result, Starves (next result))
    (opens : ∀ result, Opens more (next result) (next' result)) :
    Closes more
      (Parser.level >>= fun saved => setLevel level >>= fun _ =>
        first saved >>= fun result => setLevel saved >>= fun _ => next result)
      (Parser.level >>= fun saved => setLevel level >>= fun _ =>
        first' saved >>= fun result => setLevel saved >>= fun _ => next' result) := by
  intro state state' result final continues run _
  obtain ⟨value, middle, first_, next_⟩ := restored_eq_ok_iff.1 run
  have some : middle.ahead ≠ [] := fun nothing =>
    (starves value (middle.setLevel state.level) nothing).of_ok next_
  obtain ⟨middle', first', continues'⟩ := (carries state.level state'.level).follows
    (continues.setLevel (.inl rfl)) first_ (.inl some)
  obtain ⟨final', next', continues''⟩ :=
    opens value (continues'.setLevel continues.level) next_ (.inl some)
  exact ⟨final', restored_eq_ok_iff.2 ⟨value, middle', first', next'⟩, continues''⟩

theorem outcome_bind_eq_ok {next : Except SyntaxError α → Parser β} {state final : ParserState}
    {result : β} (run : (parser >>= fun value => next (.ok value)) state = .ok result final) :
    (outcome parser >>= next) state = .ok result final := by
  obtain ⟨value, middle, first, rest⟩ := bind_eq_ok_iff.1 run
  exact bind_eq_ok_iff.2 ⟨.ok value, middle, by rw [outcome, first], rest⟩

/-- If a fault of the first parser is a fault of the whole, only its results matter. -/
theorem Follows.outcome {among : ParserState → ParserState → Prop}
    {next next' : Except SyntaxError α → Parser β}
    (fails : ∀ error state, (next (.error error)).Ensures state fun _ _ => False)
    (follows : Follows more among (parser >>= fun value => next (.ok value))
      (parser' >>= fun value => next' (.ok value))) :
    Follows more among (outcome parser >>= next) (Parser.outcome parser' >>= next') := by
  intro state state' result final continues run condition
  obtain ⟨size, middle, first, rest⟩ := bind_eq_ok_iff.1 run
  rw [Parser.outcome] at first
  split at first
  · rename_i value inner found
    cases first
    obtain ⟨final', run', continues'⟩ :=
      follows continues (bind_eq_ok_iff.2 ⟨value, middle, found, rest⟩) condition
    exact ⟨final', outcome_bind_eq_ok run', continues'⟩
  · cases first
    exact ((fails _ _).of_ok rest).elim

theorem Carries.outcome {next next' : Except SyntaxError α → Parser β}
    [carries : Carries more parser parser']
    (fails : ∀ error state, (next (.error error)).Ensures state fun _ _ => False)
    [∀ error, Forward (next (.error error))]
    [each : ∀ value, Carries more (next (.ok value)) (next' (.ok value))] :
    Carries more (outcome parser >>= next) (Parser.outcome parser' >>= next') where
  forward :=
    have := carries.forward
    .bind fun
      | .ok value => (each value).forward
      | .error _ => inferInstance
  follows := .outcome fails Carries.follows

end Parser

end GoMend
