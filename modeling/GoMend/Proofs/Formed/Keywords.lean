import GoMend.Proofs.Formed.Heads
import GoMend.Proofs.Grammar.Forward
import GoMend.Proofs.Names.Imports
import Mathlib.Data.List.Forall2

/-!
# Keywords of functions are read one by one

A parser that takes a keyword of a function gives a function for it, whose head is made of the words
behind the keyword, and every other word that it takes is none.  So between two places of a text the
heads of what was read follow one another as the keywords do.
-/

namespace GoMend

/-- Between two places of a text the keywords of functions begin just the heads. -/
def Heads (words : List Token) (heads : List Head) (rest : List Token) : Prop :=
  ∃ passed, Lexed.behindKeywords words = passed ++ Lexed.behindKeywords rest ∧
    List.Forall₂ Head.Begins passed heads

namespace Heads

variable {words middle rest : List Token} {heads more : List Head} {head : Head} {token : Token}

theorem of_same (same : Lexed.behindKeywords words = Lexed.behindKeywords rest) :
    Heads words [] rest :=
  ⟨[], same, .nil⟩

theorem refl : Heads words [] words :=
  of_same rfl

theorem trans (first : Heads words heads middle) (second : Heads middle more rest) :
    Heads words (heads ++ more) rest := by
  obtain ⟨passed, same, begin⟩ := first
  obtain ⟨further, sameMiddle, begin'⟩ := second
  refine ⟨passed ++ further, ?_, List.rel_append begin begin'⟩
  rw [same, sameMiddle, List.append_assoc]

/-- A word that is no keyword of a function passes no head. -/
theorem skip (other : token.kind ≠ .funcKw) : Heads (token :: rest) [] rest :=
  of_same (if_neg other)

/-- The keyword of a function passes the head that begins behind it, before those inside of it. -/
theorem keyword (isKeyword : token.kind = .funcKw) (begins : Head.Begins words head)
    (inner : Heads words heads rest) : Heads (token :: words) (head :: heads) rest := by
  obtain ⟨passed, same, begin⟩ := inner
  refine ⟨words :: passed, ?_, .cons begins begin⟩
  rw [Lexed.behindKeywords, if_pos isKeyword, same, List.cons_append]

/-- In a text that is read to its end the keywords begin just the heads that were passed. -/
theorem of_nil (all : Heads words heads []) :
    List.Forall₂ Head.Begins (Lexed.behindKeywords words) heads := by
  obtain ⟨passed, same, begin⟩ := all
  rwa [same, Lexed.behindKeywords, List.append_nil]

end Heads

namespace ParserState

theorem heads_advance {state : ParserState} (other : state.kind ≠ .funcKw) :
    Heads state.ahead [] state.advance.ahead := by
  rw [ahead_advance]
  rw [kind] at other
  cases ahead : state.ahead with
  | nil => exact .refl
  | cons token rest =>
      rw [ahead] at other
      exact .skip other

end ParserState

namespace Parser

variable {α β : Type} {place : Kind → Prop} {held : List Head} {heads : β → List Head}
  {given : α → List Head}

/-- Before whatever word. -/
def Anything (_ : Kind) : Prop :=
  True

/-- Started before a word as told, the parser passes the heads of its result, behind those that it
was handed. -/
def Passes (place : Kind → Prop) (held : List Head) (heads : β → List Head) (parser : Parser β) :
    Prop :=
  ∀ state : ParserState, place state.kind → parser.Ensures state fun result final =>
    ∃ read, heads result = held ++ read ∧ Heads state.ahead read final.ahead

/-- The parser leaves the words alone. -/
class Still (parser : Parser α) : Prop where
  same : ∀ state, parser.Ensures state fun _ final => final.ahead = state.ahead

instance : Still (get : Parser ParserState) := ⟨fun _ => rfl⟩

instance : Still peekSecond := ⟨fun _ => rfl⟩

instance {kind : Kind} : Still (at? kind) := ⟨fun _ => rfl⟩

instance {kinds : List Kind} : Still (atAny kinds) := ⟨fun _ => rfl⟩

instance : Still level := ⟨fun _ => rfl⟩

instance {level : Int} : Still (setLevel level) := ⟨fun _ => rfl⟩

instance : Still takeDoc := ⟨fun _ => rfl⟩

instance : Still takeRemaining := ⟨fun _ => rfl⟩

instance : Still takeTrailing where
  same state := by
    apply takeTrailing_ensures.weaken
    rintro comment final ⟨comments, rfl⟩
    rfl

namespace Passes

theorem pure {result : β} (same : heads result = held) :
    (Pure.pure result : Parser β).Passes place held heads :=
  fun _ _ => ⟨[], by rw [same, List.append_nil], .refl⟩

theorem fail {fault : SyntaxFault} : (Parser.fail fault : Parser β).Passes place held heads :=
  fun _ _ => trivial

theorem failAt {fault : SyntaxFault} {offset : Nat} :
    (Parser.failAt fault offset : Parser β).Passes place held heads :=
  fun _ _ => trivial

theorem anywhere {parser : Parser β} (passes : parser.Passes Anything held heads) :
    parser.Passes place held heads :=
  fun state _ => passes state trivial

theorem ite {condition : Prop} [Decidable condition] {yes no : Parser β}
    (passesYes : yes.Passes place held heads) (passesNo : no.Passes place held heads) :
    (if condition then yes else no).Passes place held heads := by
  split
  · exact passesYes
  · exact passesNo

theorem relist {parser : Parser β} {other : List Head} (passes : parser.Passes place held heads)
    (same : held = other) : parser.Passes place other heads :=
  same ▸ passes

/-- A step that adds to what it was handed. -/
theorem chain {first : Parser α} {next : α → Parser β} (passes : first.Passes place held given)
    (each : ∀ value, (next value).Passes Anything (given value) heads) :
    (first >>= next).Passes place held heads := by
  intro state here
  rw [Ensures, ends_bind]
  apply (passes state here).weaken
  rintro value middle ⟨before, same, passed⟩
  apply (each value middle trivial).weaken
  rintro result final ⟨read, all, further⟩
  exact ⟨before ++ read, by rw [all, same, List.append_assoc], passed.trans further⟩

/-- What was handed to a parser stands before what it reads by itself. -/
theorem hand {parser : Parser β} (passes : parser.Passes place [] heads) (held : List Head) :
    parser.Passes place held fun result => held ++ heads result := by
  intro state here
  apply (passes state here).weaken
  rintro result final ⟨read, same, passed⟩
  exact ⟨read, congrArg (held ++ ·) same, passed⟩

/-- A step that is handed nothing. -/
theorem bind {first : Parser α} {next : α → Parser β} (passes : first.Passes Anything [] given)
    (each : ∀ value, (next value).Passes Anything (held ++ given value) heads) :
    (first >>= next).Passes place held heads :=
  (passes.anywhere.hand held).chain each

/-- A step that leaves the words alone. -/
theorem after {first : Parser α} {next : α → Parser β} [still : Still first]
    (each : ∀ value, (next value).Passes place held heads) :
    (first >>= next).Passes place held heads := by
  intro state here
  rw [Ensures, ends_bind]
  apply (still.same state).weaken
  intro value middle same
  have kind : middle.kind = state.kind := by
    rw [ParserState.kind, ParserState.kind, same]
  rw [← same]
  exact each value middle (kind ▸ here)

/-- What depends on the next word may be told it. -/
theorem atAny {kinds : List Kind} {yes no : Parser β}
    (passesYes : yes.Passes (· ∈ kinds) held heads) (passesNo : no.Passes place held heads) :
    (Parser.atAny kinds >>= fun found => if found = true then yes else no).Passes place held
      heads := by
  intro state here
  rw [Ensures, ends_bind, ends_atAny, ends_ite]
  constructor
  · intro found
    exact passesYes state (List.contains_iff_mem.1 found)
  · intro _
    exact passesNo state here

theorem at? {kind : Kind} {yes no : Parser β} (passesYes : yes.Passes (· = kind) held heads)
    (passesNo : no.Passes place held heads) :
    (Parser.at? kind >>= fun found => if found = true then yes else no).Passes place held
      heads := by
  intro state here
  rw [Ensures, ends_bind, ends_at?, ends_ite]
  constructor
  · intro found
    exact passesYes state (beq_iff_eq.1 found)
  · intro _
    exact passesNo state here

theorem peek {next : Kind → Parser β}
    (each : ∀ kind, (next kind).Passes (· = kind) held heads) :
    (Parser.peek >>= next).Passes place held heads := by
  intro state _
  rw [Ensures, ends_bind, ends_peek]
  exact each state.kind state rfl

/-- A word that is no keyword of a function. -/
theorem bump {next : Token → Parser β} (other : ∀ kind, place kind → kind ≠ .funcKw)
    (each : ∀ word, (next word).Passes Anything held heads) :
    (Parser.bump >>= next).Passes place held heads := by
  intro state here
  rw [Ensures, ends_bind, ends_bump]
  apply (each state.token state.advance trivial).weaken
  rintro result final ⟨read, same, passed⟩
  exact ⟨read, same, (ParserState.heads_advance (other _ here)).trans passed⟩

/-- A word that is known, and no keyword of a function. -/
theorem bumped {kind : Kind} {next : Token → Parser β} (other : kind ≠ .funcKw)
    (each : ∀ word, (next word).Passes Anything held heads) :
    (Parser.bump >>= next).Passes (· = kind) held heads :=
  .bump (by rintro _ rfl; exact other) each

theorem expect {kind : Kind} {next : Token → Parser β} (other : kind ≠ .funcKw)
    (each : ∀ word, (next word).Passes Anything held heads) :
    (Parser.expect kind >>= next).Passes place held heads := by
  intro state _
  rw [Ensures, ends_bind, ends_expect]
  constructor
  · intro isKind
    apply (each state.token state.advance trivial).weaken
    rintro result final ⟨read, same, passed⟩
    exact ⟨read, same, (ParserState.heads_advance (isKind ▸ other)).trans passed⟩
  · intro _
    trivial

theorem eat {kind : Kind} {next : Bool → Parser β} (other : kind ≠ .funcKw)
    (each : ∀ eaten, (next eaten).Passes Anything held heads) :
    (Parser.eat kind >>= next).Passes place held heads := by
  intro state _
  rw [Ensures, ends_bind, ends_eat]
  constructor
  · intro isKind
    apply (each true state.advance trivial).weaken
    rintro result final ⟨read, same, passed⟩
    exact ⟨read, same, (ParserState.heads_advance (isKind ▸ other)).trans passed⟩
  · intro _
    exact each false state trivial

theorem ident {next : Ident → Parser β} (each : ∀ name, (next name).Passes Anything held heads) :
    (Parser.ident >>= next).Passes place held heads := by
  have unfolded : Parser.ident >>= next = Parser.expect .identifier >>= fun token =>
      next { name := token.text, offset := some token.offset } := by
    rw [Parser.ident, bind_assoc]
    rfl
  rw [unfolded]
  exact expect (by decide) fun word => each _

theorem expectSemicolon {next : Unit → Parser β}
    (each : (next ()).Passes Anything held heads) :
    (Parser.expectSemicolon >>= next).Passes place held heads := by
  have ended : Parser.expectSemicolon.Passes place [] fun _ => [] := by
    rw [Parser.expectSemicolon]
    apply eat (by decide)
    intro eaten
    apply ite
    · exact pure rfl
    · apply after
      intro closed
      apply ite
      · exact pure rfl
      · exact peek fun _ => fail
  apply (ended.hand held).chain
  intro _
  rwa [List.append_nil]

theorem atLevel {enter : Int → Int} {leave : Int → Int → Int} {parser : Parser β}
    (passes : parser.Passes place held heads) :
    (Parser.atLevel enter leave parser).Passes place held heads := by
  intro state here
  rw [Ensures, ends_atLevel]
  exact passes (state.setLevel _) here

theorem nested {parser : Parser β} (passes : parser.Passes place held heads) :
    (Parser.nested parser).Passes place held heads :=
  passes.atLevel

theorem fresh {parser : Parser β} (passes : parser.Passes place held heads) :
    (Parser.fresh parser).Passes place held heads :=
  passes.atLevel

/-- An error that is told only after the closing has been read gives no result. -/
theorem attempt {first : Parser α} {kind : Kind} {next : Except SyntaxError α → Parser β}
    (passes : first.Passes place [] given) (other : kind ≠ .funcKw)
    (each : ∀ value, (next (.ok value)).Passes Anything (held ++ given value) heads)
    (told : ∀ error, next (.error error) = throw error) :
    (outcome first >>= fun read => Parser.expect kind >>= fun _ => next read).Passes place held
      heads := by
  intro state here
  rw [Ensures, ends_bind, ends_outcome]
  apply (passes state here).mono
  · rintro value middle ⟨before, same, passed⟩
    rw [List.nil_append] at same
    have closed : (Parser.expect kind >>= fun _ => next (.ok value)).Passes Anything
        (held ++ given value) heads := expect other fun _ => each value
    apply (closed middle trivial).weaken
    rintro result final ⟨read, all, further⟩
    exact ⟨before ++ read, by rw [all, same, List.append_assoc], passed.trans further⟩
  · intro error middle _
    rw [ends_bind]
    apply (ensures_trivial _ _).weaken
    intro close behind _
    rw [told error]
    trivial

end Passes

end Parser

end GoMend
