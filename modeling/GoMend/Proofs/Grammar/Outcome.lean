import GoMend.Grammar.Reading

/-!
# How a parser ends

What a production does is told by how it ends: with a result or with a fault, and
in which state.  The rules of this module compute this condition along the steps of
a production, so that a property of the whole grammar needs one short proof for
each production and none of them opens a primitive parser again.
-/

namespace GoMend

namespace ParserState

/-- The state with other comments still to be placed. -/
def setComments (state : ParserState) (comments : List Token) : ParserState :=
  { state with comments }

section

variable {state : ParserState} {level : Int} {comments : List Token}

@[simp] theorem ahead_setLevel : (state.setLevel level).ahead = state.ahead := rfl

@[simp] theorem kind_setLevel : (state.setLevel level).kind = state.kind := rfl

@[simp] theorem secondKind_setLevel :
    (state.setLevel level).secondKind = state.secondKind := rfl

@[simp] theorem token_setLevel : (state.setLevel level).token = state.token := rfl

@[simp] theorem ahead_setComments : (state.setComments comments).ahead = state.ahead := rfl

@[simp] theorem kind_setComments : (state.setComments comments).kind = state.kind := rfl

@[simp] theorem secondKind_setComments :
    (state.setComments comments).secondKind = state.secondKind := rfl

@[simp] theorem token_setComments : (state.setComments comments).token = state.token := rfl

theorem ahead_advance : state.advance.ahead = state.ahead.tail := by
  unfold advance
  split
  · rename_i nothing
    rw [nothing, List.tail_nil]
  · rename_i token rest some
    rw [some, List.tail_cons]

/-- A word of some category stands in front of the others. -/
theorem ahead_of_kind {kind : Kind} (found : state.kind = kind) (some : kind ≠ .endOfFile) :
    ∃ token : Token, token.kind = kind ∧ state.ahead = token :: state.advance.ahead := by
  rw [ahead_advance]
  rw [ParserState.kind] at found
  cases ahead : state.ahead with
  | nil =>
      rw [ahead] at found
      exact absurd found.symm some
  | cons token rest =>
      rw [ahead] at found
      exact ⟨token, found, rfl⟩

theorem kind_advance : state.advance.kind = state.secondKind := by
  rw [kind, ahead_advance, secondKind]
  rcases state.ahead with _ | ⟨first, _ | ⟨second, rest⟩⟩ <;> rfl

@[simp] theorem advance_setLevel :
    (state.setLevel level).advance = state.advance.setLevel level := by
  unfold advance
  rw [ahead_setLevel]
  split <;> rfl

@[simp] theorem advance_setComments :
    (state.setComments comments).advance = state.advance.setComments comments := by
  unfold advance
  rw [ahead_setComments]
  split <;> rfl

end

end ParserState

namespace Parser

variable {α β : Type}

/-- The parser, started in a state, ends well with `good` or in a fault with `bad`. -/
def Ends (parser : Parser α) (state : ParserState)
    (good : α → ParserState → Prop) (bad : SyntaxError → ParserState → Prop) : Prop :=
  match parser state with
  | .ok result final => good result final
  | .error error final => bad error final

/-- Whenever the parser, started in a state, gives a result, it ends with `good`. -/
abbrev Ensures (parser : Parser α) (state : ParserState)
    (good : α → ParserState → Prop) : Prop :=
  parser.Ends state good fun _ _ => True

section

variable {state : ParserState} {good : α → ParserState → Prop}
  {bad : SyntaxError → ParserState → Prop}

/-- A parser that ends in some way ends in every weaker way. -/
theorem Ends.mono {parser : Parser α} {weakGood : α → ParserState → Prop}
    {weakBad : SyntaxError → ParserState → Prop} (ends : parser.Ends state good bad)
    (goodWeak : ∀ result final, good result final → weakGood result final)
    (badWeak : ∀ error final, bad error final → weakBad error final) :
    parser.Ends state weakGood weakBad := by
  unfold Ends at *
  split at ends
  · exact goodWeak _ _ ends
  · exact badWeak _ _ ends

/-- What a parser ensures may be weakened. -/
theorem Ends.weaken {parser : Parser α} {weak : α → ParserState → Prop}
    (ends : parser.Ensures state good)
    (goodWeak : ∀ result final, good result final → weak result final) :
    parser.Ensures state weak :=
  ends.mono goodWeak fun _ _ _ => trivial

/-- A parser ensures both of two things that it ensures. -/
theorem Ends.and {parser : Parser α} {other : α → ParserState → Prop}
    (one : parser.Ensures state good) (two : parser.Ensures state other) :
    parser.Ensures state fun result final => good result final ∧ other result final := by
  unfold Ensures Ends at *
  split at one
  · simp_all
  · simp_all

/-- Every parser ends somehow. -/
theorem ensures_trivial (parser : Parser α) (state : ParserState) :
    parser.Ensures state fun _ _ => True := by
  unfold Ensures Ends
  split <;> trivial

/-- A parser ensures what holds of each of its results. -/
theorem ensures_of_ok {parser : Parser α}
    (each : ∀ result final, parser state = .ok result final → good result final) :
    parser.Ensures state good := by
  unfold Ensures Ends
  split
  · exact each _ _ ‹_›
  · trivial

/-- A parser that gives a result has ended as it ensures. -/
theorem Ends.of_ok {parser : Parser α} {result : α} {final : ParserState}
    (ends : parser.Ends state good bad) (run : parser state = .ok result final) :
    good result final := by
  simpa only [Ends, run] using ends

@[simp] theorem ends_pure {result : α} :
    (pure result : Parser α).Ends state good bad ↔ good result state :=
  Iff.rfl

@[simp] theorem ends_throw {error : SyntaxError} :
    (throw error : Parser α).Ends state good bad ↔ bad error state :=
  Iff.rfl

@[simp] theorem ends_fail {fault : SyntaxFault} :
    (fail fault : Parser α).Ends state good bad ↔
      bad { fault, offset := state.offset } state :=
  Iff.rfl

@[simp] theorem ends_failAt {fault : SyntaxFault} {offset : Nat} :
    (failAt fault offset : Parser α).Ends state good bad ↔ bad { fault, offset } state :=
  Iff.rfl

@[simp] theorem ends_bind {first : Parser α} {next : α → Parser β}
    {good : β → ParserState → Prop} :
    (first >>= next).Ends state good bad ↔
      first.Ends state (fun result middle => (next result).Ends middle good bad) bad := by
  simp only [Ends, bind, EStateM.bind]
  cases first state <;> rfl

@[simp] theorem ends_map {first : Parser α} {image : α → β}
    {good : β → ParserState → Prop} :
    (image <$> first).Ends state good bad ↔
      first.Ends state (fun result final => good (image result) final) bad := by
  simp only [Ends, Functor.map, EStateM.map]
  cases first state <;> rfl

@[simp] theorem ends_ite {condition : Prop} [Decidable condition]
    {yes no : Parser α} :
    (if condition then yes else no).Ends state good bad ↔
      (condition → yes.Ends state good bad) ∧ (¬condition → no.Ends state good bad) := by
  split <;> simp_all

@[simp] theorem ends_get {good : ParserState → ParserState → Prop} :
    (get : Parser ParserState).Ends state good bad ↔ good state state :=
  Iff.rfl

@[simp] theorem ends_peek {good : Kind → ParserState → Prop} :
    peek.Ends state good bad ↔ good state.kind state :=
  Iff.rfl

@[simp] theorem ends_peekSecond {good : Kind → ParserState → Prop} :
    peekSecond.Ends state good bad ↔ good state.secondKind state :=
  Iff.rfl

@[simp] theorem ends_at? {kind : Kind} {good : Bool → ParserState → Prop} :
    (at? kind).Ends state good bad ↔ good (state.kind == kind) state :=
  Iff.rfl

@[simp] theorem ends_atAny {kinds : List Kind} {good : Bool → ParserState → Prop} :
    (atAny kinds).Ends state good bad ↔ good (kinds.contains state.kind) state :=
  Iff.rfl

@[simp] theorem ends_bump {good : Token → ParserState → Prop} :
    bump.Ends state good bad ↔ good state.token state.advance :=
  Iff.rfl

@[simp] theorem ends_eat {kind : Kind} {good : Bool → ParserState → Prop} :
    (eat kind).Ends state good bad ↔
      (state.kind = kind → good true state.advance) ∧
        (state.kind ≠ kind → good false state) := by
  by_cases found : state.kind = kind <;> simp [Ends, eat, found]

@[simp] theorem ends_expect {kind : Kind} {good : Token → ParserState → Prop} :
    (expect kind).Ends state good bad ↔
      (state.kind = kind → good state.token state.advance) ∧
        (state.kind ≠ kind → bad { fault := .expected kind, offset := state.offset } state) := by
  by_cases found : state.kind = kind <;> simp [Ends, expect, found]

@[simp] theorem ends_outcome {parser : Parser α}
    {good : Except SyntaxError α → ParserState → Prop} :
    (outcome parser).Ends state good bad ↔
      parser.Ends state (fun result final => good (.ok result) final)
        fun error final => good (.error error) final := by
  simp only [Ends, outcome]
  cases parser state <;> rfl

@[simp] theorem ends_level {good : Int → ParserState → Prop} :
    level.Ends state good bad ↔ good state.level state :=
  Iff.rfl

@[simp] theorem ends_setLevel {level : Int} {good : Unit → ParserState → Prop} :
    (setLevel level).Ends state good bad ↔ good () (state.setLevel level) :=
  Iff.rfl

@[simp] theorem ends_atLevel {enter : Int → Int} {leave : Int → Int → Int} {parser : Parser α} :
    (atLevel enter leave parser).Ends state good bad ↔
      parser.Ends (state.setLevel (enter state.level))
        (fun result final => good result (final.setLevel (leave state.level final.level)))
        fun error final => bad error (final.setLevel (leave state.level final.level)) := by
  simp only [Ends, atLevel]
  cases parser (state.setLevel (enter state.level)) <;> rfl

@[simp] theorem ends_nested {parser : Parser α} :
    (nested parser).Ends state good bad ↔
      parser.Ends (state.setLevel (state.level + 1))
        (fun result final => good result (final.setLevel (final.level - 1)))
        fun error final => bad error (final.setLevel (final.level - 1)) :=
  ends_atLevel

@[simp] theorem ends_fresh {parser : Parser α} :
    (fresh parser).Ends state good bad ↔
      parser.Ends (state.setLevel 0)
        (fun result final => good result (final.setLevel state.level))
        fun error final => bad error (final.setLevel state.level) :=
  ends_atLevel

@[simp] theorem ends_takeDoc {good : List Comment → ParserState → Prop} :
    takeDoc.Ends state good bad ↔
      good ((state.comments.takeWhile (·.offset < state.offset)).map toComment)
        (state.setComments (state.comments.dropWhile (·.offset < state.offset))) :=
  Iff.rfl

/-- Taking a comment behind a word succeeds and changes nothing but the comments. -/
theorem takeTrailing_run (state : ParserState) :
    ∃ comment comments, takeTrailing state = .ok comment (state.setComments comments) := by
  rw [takeTrailing]
  split
  · exact ⟨_, state.comments, rfl⟩
  · split
    · exact ⟨_, _, rfl⟩
    · exact ⟨_, state.comments, rfl⟩

theorem takeTrailing_ensures :
    takeTrailing.Ensures state fun _ final => ∃ comments, final = state.setComments comments := by
  obtain ⟨comment, comments, run⟩ := takeTrailing_run state
  rw [Ensures, Ends, run]
  exact ⟨comments, rfl⟩

@[simp] theorem ends_takeRemaining {good : List Comment → ParserState → Prop} :
    takeRemaining.Ends state good bad ↔
      good (state.comments.map toComment) (state.setComments []) :=
  Iff.rfl

@[simp] theorem ends_ident {good : Ident → ParserState → Prop} :
    ident.Ends state good bad ↔
      (state.kind = .identifier →
        good { name := state.token.text, offset := some state.token.offset }
          state.advance) ∧
        (state.kind ≠ .identifier →
          bad { fault := .expected .identifier, offset := state.offset } state) := by
  simp [ident]

end

/-! ## What is given wherever the parser starts -/

section

variable {good : α → Prop} {wanted : β → Prop} {place : List Token → Prop}

/-- The words ahead may be any. -/
def Anywhere (_ : List Token) : Prop :=
  True

/-- The words ahead are the last of the source. -/
def Within (source ahead : List Token) : Prop :=
  ahead <:+ source

/-- A parser that starts in front of words of a kind ends in front of such words. -/
class Stays (place : List Token → Prop) (parser : Parser α) : Prop where
  stays : ∀ state : ParserState, place state.ahead →
    parser.Ensures state fun _ final => place final.ahead

instance {parser : Parser α} : Stays Anywhere parser where
  stays state _ := ensures_trivial parser state

/-- Whatever the parser gives is as wanted, in front of whatever words of a kind it starts. -/
def Gives (place : List Token → Prop) (wanted : α → Prop) (parser : Parser α) : Prop :=
  ∀ state : ParserState, place state.ahead → parser.Ensures state fun result _ => wanted result

namespace Gives

theorem weaken {parser : Parser α} {weak : α → Prop} (gives : parser.Gives place good)
    (goodWeak : ∀ value, good value → weak value) : parser.Gives place weak :=
  fun state here => (gives state here).weaken fun value _ => goodWeak value

theorem pure {result : β} (holds : wanted result) :
    (Pure.pure result : Parser β).Gives place wanted :=
  fun _ _ => holds

theorem fail {fault : SyntaxFault} : (Parser.fail fault : Parser β).Gives place wanted :=
  fun _ _ => trivial

theorem throw {error : SyntaxError} : (throw error : Parser β).Gives place wanted :=
  fun _ _ => trivial

theorem bind {first : Parser α} {next : α → Parser β} [stays : Stays place first]
    (gives : first.Gives place good)
    (each : ∀ value, good value → (next value).Gives place wanted) :
    (first >>= next).Gives place wanted := by
  intro state here
  rw [Ensures, ends_bind]
  apply ((gives state here).and (stays.stays state here)).weaken
  intro value middle read
  exact each value read.1 middle read.2

theorem after {first : Parser α} {next : α → Parser β} [Stays place first]
    (each : ∀ value, (next value).Gives place wanted) : (first >>= next).Gives place wanted :=
  have anything : first.Gives place fun _ => True := fun state _ => ensures_trivial first state
  anything.bind fun value _ => each value

theorem ite {condition : Prop} [Decidable condition] {yes no : Parser β}
    (givesYes : yes.Gives place wanted) (givesNo : no.Gives place wanted) :
    (if condition then yes else no).Gives place wanted := by
  split
  · exact givesYes
  · exact givesNo

theorem atLevel {enter : Int → Int} {leave : Int → Int → Int} {parser : Parser β}
    (gives : parser.Gives place wanted) :
    (Parser.atLevel enter leave parser).Gives place wanted := by
  intro state here
  rw [Ensures, ends_atLevel]
  exact gives (state.setLevel _) here

theorem nested {parser : Parser β} (gives : parser.Gives place wanted) :
    (Parser.nested parser).Gives place wanted :=
  gives.atLevel

/-- Setting the level and putting it back leaves what the first parser gives. -/
theorem restored {level : Int} {first : Int → Parser α} {next : α → Parser β}
    [stays : ∀ saved, Stays place (first saved)] (gives : ∀ saved, (first saved).Gives place good)
    (each : ∀ value, good value → (next value).Gives place wanted) :
    (Parser.level >>= fun saved => setLevel level >>= fun _ =>
      first saved >>= fun result => setLevel saved >>= fun _ => next result).Gives
        place wanted := by
  intro state here
  rw [Ensures, ends_bind, ends_level, ends_bind, ends_setLevel, ends_bind]
  have begun : place (state.setLevel level).ahead := here
  apply ((gives state.level _ begun).and ((stays state.level).stays _ begun)).weaken
  intro value middle read
  rw [ends_bind, ends_setLevel]
  exact each value read.1 (middle.setLevel state.level) read.2

theorem outcome {parser : Parser β} (gives : parser.Gives place wanted) :
    (Parser.outcome parser).Gives place fun result =>
      ∀ value, result = .ok value → wanted value := by
  intro state here
  rw [Ensures, ends_outcome]
  apply (gives state here).mono
  · intro value final holds other same
    exact Except.ok.inj same ▸ holds
  · intro error final _ value same
    cases same

end Gives

end

end Parser

/-- An operator behind an expression binds too loosely to belong to it. -/
def Loose (floor : Nat) (kind : Kind) : Prop :=
  ∀ op, BinaryOp.ofKind? kind = some op → op.precedence < floor

end GoMend
