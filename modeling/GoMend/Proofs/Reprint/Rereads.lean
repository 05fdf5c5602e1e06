import GoMend.Proofs.Reprint.Shaping

/-!
# Reading given words

A parser rereads the words ahead if it ends well on them and leaves the rest, where no comment
is pending.  One rule for each step of a parser runs it on words of which the first ones are
known.
-/

namespace GoMend

open Lexed (headKind)
open GoMend.Parser

/-- Before the words ahead, with no comment among them, the parser ends with a good result before
the rest, at the level at which it began. -/
def Rereads {α : Type} (lines : LineIndex) (level : Int) (parser : Parser α) (ahead : List Token)
    (good : α → Prop) (rest : List Token) : Prop :=
  ∀ stop, parser.Ends ⟨ahead, [], stop, level, lines⟩
    (fun result final => good result ∧ ∃ stop, final = ⟨rest, [], stop, level, lines⟩)
    fun _ _ => False

namespace Rereads

variable {α β : Type} {lines : LineIndex} {level : Int} {ahead behind middle rest : List Token}
  {good : β → Prop} {next : α → Parser β} {token : Token} {kind : Kind}

protected theorem pure {result : β} (isGood : good result) :
    Rereads lines level (pure result) ahead good ahead :=
  fun stop => ⟨isGood, stop, rfl⟩

protected theorem bind {first : Parser α} (between : α → Prop)
    (one : Rereads lines level first ahead between middle)
    (two : ∀ result, between result → Rereads lines level (next result) middle good rest) :
    Rereads lines level (first >>= next) ahead good rest := by
  intro stop
  rw [ends_bind]
  refine (one stop).mono ?_ fun _ _ => id
  rintro result final ⟨isGood, stop, rfl⟩
  exact two result isGood stop

/-- A result that is there already. -/
theorem known {result : α} (rereads : Rereads lines level (next result) ahead good rest) :
    Rereads lines level (Pure.pure result >>= next) ahead good rest :=
  rereads

theorem mono {parser : Parser α} {strong weak : α → Prop}
    (rereads : Rereads lines level parser ahead strong rest)
    (weaken : ∀ result, strong result → weak result) :
    Rereads lines level parser ahead weak rest :=
  fun stop => (rereads stop).mono
    (fun result _ ends => ⟨weaken result ends.1, ends.2⟩) fun _ _ => id

/-! ## Steps that read no word -/

protected theorem get {next : ParserState → Parser β}
    (behind : ∀ stop, Rereads lines level (next ⟨ahead, [], stop, level, lines⟩) ahead good rest) :
    Rereads lines level (get >>= next) ahead good rest :=
  fun stop => behind stop stop

protected theorem peek {next : Kind → Parser β}
    (behind : Rereads lines level (next (headKind ahead)) ahead good rest) :
    Rereads lines level (peek >>= next) ahead good rest := by
  intro stop
  rw [ends_bind, ends_peek, ParserState.kind_eq]
  exact behind stop

theorem peekAt {next : Kind → Parser β} (here : headKind ahead = kind)
    (behind : Rereads lines level (next kind) ahead good rest) :
    Rereads lines level (Parser.peek >>= next) ahead good rest :=
  .peek (here ▸ behind)

protected theorem peekSecond {next : Kind → Parser β}
    (behind : Rereads lines level (next (headKind ahead.tail)) ahead good rest) :
    Rereads lines level (peekSecond >>= next) ahead good rest := by
  intro stop
  rw [ends_bind, ends_peekSecond, ← ParserState.kind_advance, ParserState.kind_eq,
    ParserState.ahead_advance]
  exact behind stop

theorem ifAt {yes no : Parser β} (here : headKind ahead = kind)
    (rereads : Rereads lines level yes ahead good rest) :
    Rereads lines level (at? kind >>= fun found => if found = true then yes else no) ahead good
      rest := by
  intro stop
  rw [ends_bind, ends_at?, ParserState.kind_eq, here, if_pos (beq_self_eq_true kind)]
  exact rereads stop

theorem unlessAt {yes no : Parser β} (other : headKind ahead ≠ kind)
    (rereads : Rereads lines level no ahead good rest) :
    Rereads lines level (at? kind >>= fun found => if found = true then yes else no) ahead good
      rest := by
  intro stop
  rw [ends_bind, ends_at?, ParserState.kind_eq, if_neg (by simpa using other)]
  exact rereads stop

theorem ifAny {kinds : List Kind} {yes no : Parser β} (here : headKind ahead ∈ kinds)
    (rereads : Rereads lines level yes ahead good rest) :
    Rereads lines level (atAny kinds >>= fun found => if found = true then yes else no) ahead good
      rest := by
  intro stop
  rw [ends_bind, ends_atAny, ParserState.kind_eq, if_pos (List.contains_iff_mem.2 here)]
  exact rereads stop

theorem unlessAny {kinds : List Kind} {yes no : Parser β} (other : headKind ahead ∉ kinds)
    (rereads : Rereads lines level no ahead good rest) :
    Rereads lines level (atAny kinds >>= fun found => if found = true then yes else no) ahead good
      rest := by
  intro stop
  rw [ends_bind, ends_atAny, ParserState.kind_eq, if_neg (mt List.contains_iff_mem.1 other)]
  exact rereads stop

theorem skip {next : Bool → Parser β} (other : headKind ahead ≠ kind)
    (rereads : Rereads lines level (next false) ahead good rest) :
    Rereads lines level (eat kind >>= next) ahead good rest := by
  intro stop
  rw [ends_bind, ends_eat, ParserState.kind_eq]
  exact ⟨fun same => absurd same other, fun _ => rereads stop⟩

theorem unlessEat {yes no : Parser β} (other : headKind ahead ≠ kind)
    (rereads : Rereads lines level no ahead good rest) :
    Rereads lines level (eat kind >>= fun found => if found = true then yes else no) ahead good
      rest :=
  skip other (by simpa using rereads)

/-! ## Steps that read a word -/

protected theorem bump {next : Token → Parser β}
    (rereads : Rereads lines level (next token) behind good rest) :
    Rereads lines level (bump >>= next) (token :: behind) good rest :=
  fun _ => rereads _

theorem take {next : Bool → Parser β} (same : token.kind = kind)
    (rereads : Rereads lines level (next true) behind good rest) :
    Rereads lines level (eat kind >>= next) (token :: behind) good rest := by
  intro stop
  rw [ends_bind, ends_eat]
  exact ⟨fun _ => rereads _, fun other => absurd same other⟩

theorem ifEat {yes no : Parser β} (same : token.kind = kind)
    (rereads : Rereads lines level yes behind good rest) :
    Rereads lines level (eat kind >>= fun found => if found = true then yes else no)
      (token :: behind) good rest :=
  take same (by simpa using rereads)

protected theorem expect {next : Token → Parser β} (same : token.kind = kind)
    (rereads : Rereads lines level (next token) behind good rest) :
    Rereads lines level (expect kind >>= next) (token :: behind) good rest := by
  intro stop
  rw [ends_bind, ends_expect]
  exact ⟨fun _ => rereads _, fun other => absurd same other⟩

protected theorem ident {next : Ident → Parser β} (same : token.kind = .identifier)
    (rereads : Rereads lines level (next { name := token.text, offset := some token.offset })
      behind good rest) :
    Rereads lines level (ident >>= next) (token :: behind) good rest := by
  intro stop
  rw [ends_bind, ends_ident]
  exact ⟨fun _ => rereads _, fun other => absurd same other⟩

/-! ## Comments and ends of statements -/

theorem doc {next : List Comment → Parser β}
    (rereads : Rereads lines level (next []) ahead good rest) :
    Rereads lines level (takeDoc >>= next) ahead good rest :=
  rereads

theorem remaining {next : List Comment → Parser β}
    (rereads : Rereads lines level (next []) ahead good rest) :
    Rereads lines level (takeRemaining >>= next) ahead good rest :=
  rereads

theorem trailing {next : Option Comment → Parser β}
    (rereads : Rereads lines level (next none) ahead good rest) :
    Rereads lines level (takeTrailing >>= next) ahead good rest :=
  rereads

theorem semicolon {next : Unit → Parser β} (same : token.kind = .semicolon)
    (rereads : Rereads lines level (next ()) behind good rest) :
    Rereads lines level (expectSemicolon >>= next) (token :: behind) good rest := by
  unfold expectSemicolon
  refine .bind (fun _ => True) (.ifEat same (.pure trivial)) fun _ _ => rereads

/-! ## Other levels -/

protected theorem atLevel {enter : Int → Int} {leave : Int → Int → Int} {parser : Parser β}
    (undone : leave level (enter level) = level)
    (rereads : Rereads lines (enter level) parser ahead good rest) :
    Rereads lines level (atLevel enter leave parser) ahead good rest := by
  intro stop
  rw [ends_atLevel]
  refine (rereads stop).mono ?_ fun _ _ => id
  rintro result final ⟨isGood, stop, rfl⟩
  refine ⟨isGood, stop, ?_⟩
  rw [ParserState.setLevel, undone]

protected theorem nested {parser : Parser β}
    (rereads : Rereads lines (level + 1) parser ahead good rest) :
    Rereads lines level (nested parser) ahead good rest :=
  .atLevel (by omega) rereads

protected theorem fresh {parser : Parser β}
    (rereads : Rereads lines 0 parser ahead good rest) :
    Rereads lines level (fresh parser) ahead good rest :=
  .atLevel rfl rereads

protected theorem outcome {parser : Parser β}
    (rereads : Rereads lines level parser ahead good rest) :
    Rereads lines level (outcome parser) ahead (fun result => ∃ value, result = .ok value ∧
      good value) rest := by
  intro stop
  rw [ends_outcome]
  refine (rereads stop).mono (fun result final ends => ?_) fun _ _ => False.elim
  exact ⟨⟨result, rfl, ends.1⟩, ends.2⟩

end Rereads

end GoMend
