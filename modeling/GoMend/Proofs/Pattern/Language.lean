import Mathlib.Computability.Language
import GoMend.Pattern.Basic

/-!
# The language of a pattern

A pattern denotes the pieces that it matches in the middle of a text.  Derivatives and
the folding of sequences and alternatives are right for this language, and the longest
match that they find belongs to it.
-/

namespace GoMend.Pattern

open scoped Computability

/-- The pieces of one character that passes the test. -/
def characters (test : Char → Bool) : Language Char :=
  {piece | ∃ c, test c = true ∧ piece = [c]}

theorem mem_characters {test : Char → Bool} {piece : List Char} :
    piece ∈ characters test ↔ ∃ c, test c = true ∧ piece = [c] :=
  Iff.rfl

/-- The pieces that a pattern matches in the middle of a text. -/
def language : Pattern → Language Char
  | .never => 0
  | .empty => 1
  | .textStart => 0
  | .textEnd => 0
  | .one test => characters test
  | .seq first second => first.language * second.language
  | .either left right => left.language + right.language
  | .many body => body.language∗

/-- Folding a sequence keeps its language. -/
theorem language_followedBy (first second : Pattern) :
    (first.followedBy second).language = first.language * second.language := by
  cases first <;> simp [followedBy, language]

/-- Folding an alternative keeps its language. -/
theorem language_orElse (left right : Pattern) :
    (left.orElse right).language = left.language + right.language := by
  cases left <;> cases right <;> simp [orElse, language]

/-- A pattern is nullable if the empty piece is in its language. -/
theorem nil_mem_language {pattern : Pattern} :
    [] ∈ pattern.language ↔ pattern.nullable = true := by
  induction pattern with
  | never => simp [language, nullable]
  | empty => simp [language, nullable]
  | textStart => simp [language, nullable]
  | textEnd => simp [language, nullable]
  | one test => simp [language, mem_characters, nullable]
  | seq first second firstIh secondIh =>
      rw [language, nullable, Bool.and_eq_true, ← firstIh, ← secondIh, Language.mem_mul]
      constructor
      · rintro ⟨left, inFirst, right, inSecond, whole⟩
        obtain ⟨rfl, rfl⟩ := List.append_eq_nil_iff.1 whole
        exact ⟨inFirst, inSecond⟩
      · rintro ⟨inFirst, inSecond⟩
        exact ⟨[], inFirst, [], inSecond, rfl⟩
  | either left right leftIh rightIh =>
      rw [language, nullable, Bool.or_eq_true, ← leftIh, ← rightIh, Language.mem_add]
  | many body _ => simp [language, nullable, Language.nil_mem_kstar]

/-- Where a piece of two parts begins: in the first part, or in the second behind an
empty first one. -/
theorem cons_mem_mul {first second : Language Char} {c : Char} {piece : List Char} :
    c :: piece ∈ first * second ↔
      (∃ left right, c :: left ∈ first ∧ right ∈ second ∧ left ++ right = piece) ∨
        [] ∈ first ∧ c :: piece ∈ second := by
  rw [Language.mem_mul]
  constructor
  · rintro ⟨left, inFirst, right, inSecond, whole⟩
    cases left with
    | nil => exact .inr ⟨inFirst, by simpa [← whole] using inSecond⟩
    | cons head left =>
        obtain ⟨rfl, rest⟩ := List.cons.inj whole
        exact .inl ⟨left, right, inFirst, inSecond, rest⟩
  · rintro (⟨left, right, inFirst, inSecond, rfl⟩ | ⟨inFirst, inSecond⟩)
    · exact ⟨c :: left, inFirst, right, inSecond, rfl⟩
    · exact ⟨[], inFirst, c :: piece, inSecond, rfl⟩

/-- A repetition that is not empty begins with a repeated part that is not. -/
theorem cons_mem_kstar {body : Language Char} {c : Char} {piece : List Char} :
    c :: piece ∈ body∗ ↔
      ∃ left right, c :: left ∈ body ∧ right ∈ body∗ ∧ left ++ right = piece := by
  constructor
  · rw [Language.mem_kstar_iff_exists_nonempty]
    rintro ⟨parts, whole, good⟩
    cases parts with
    | nil => simp at whole
    | cons part parts =>
        obtain ⟨inBody, filled⟩ := good part (by simp)
        cases part with
        | nil => exact absurd rfl filled
        | cons head left =>
            rw [List.flatten_cons, List.cons_append] at whole
            obtain ⟨rfl, rest⟩ := List.cons.inj whole
            refine ⟨left, parts.flatten, inBody, ?_, rest.symm⟩
            exact Language.join_mem_kstar fun other member =>
              (good other (List.mem_cons_of_mem _ member)).1
  · rintro ⟨left, right, inBody, inStar, rfl⟩
    rw [← Language.one_add_self_mul_kstar_eq_kstar, Language.mem_add]
    exact .inr (Language.append_mem_mul inBody inStar)

/-- The derivative by a character matches what may follow it. -/
theorem mem_language_derivative {pattern : Pattern} {c : Char} {piece : List Char} :
    piece ∈ (pattern.derivative c).language ↔ c :: piece ∈ pattern.language := by
  induction pattern generalizing piece with
  | never => simp [derivative, language]
  | empty => simp [derivative, language]
  | textStart => simp [derivative, language]
  | textEnd => simp [derivative, language]
  | one test =>
      rw [derivative, language, mem_characters]
      split <;> simp_all [language]
  | seq first second firstIh secondIh =>
      have through : piece ∈ ((first.derivative c).followedBy second).language ↔
          ∃ left right, c :: left ∈ first.language ∧ right ∈ second.language ∧
            left ++ right = piece := by
        rw [language_followedBy, Language.mem_mul]
        simp only [firstIh]
        exact ⟨fun ⟨left, inFirst, right, rest⟩ => ⟨left, right, inFirst, rest⟩,
          fun ⟨left, right, inFirst, rest⟩ => ⟨left, inFirst, right, rest⟩⟩
      rw [derivative, language, cons_mem_mul, nil_mem_language, ← secondIh, ← through]
      split
      · rename_i isNullable
        rw [language_orElse, Language.mem_add]
        simp [isNullable]
      · rename_i notNullable
        simp [notNullable]
  | either left right leftIh rightIh =>
      simp only [derivative, language_orElse, language, Language.mem_add, leftIh, rightIh]
  | many body ih =>
      simp only [derivative, language_followedBy, language, cons_mem_kstar, Language.mem_mul, ih]
      exact ⟨fun ⟨left, inBody, right, rest⟩ => ⟨left, right, inBody, rest⟩,
        fun ⟨left, right, inBody, rest⟩ => ⟨left, inBody, right, rest⟩⟩

/-- The longest match at the head of a text is a piece of the language. -/
theorem longest?_mem_language {pattern : Pattern} {text : List Char} {length : Nat}
    (found : pattern.longest? text = some length) :
    length ≤ text.length ∧ text.take length ∈ pattern.language := by
  induction text generalizing pattern length with
  | nil =>
      rw [longest?] at found
      split at found
      · rename_i isNullable
        cases found
        exact ⟨Nat.le_refl _, nil_mem_language.2 isNullable⟩
      · cases found
  | cons c rest ih =>
      rw [longest?] at found
      split at found
      · rename_i longer further
        cases found
        split at further
        · cases further
        · obtain ⟨within, member⟩ := ih further
          exact ⟨Nat.succ_le_succ within, mem_language_derivative.1 member⟩
      · split at found
        · rename_i isNullable
          cases found
          exact ⟨Nat.zero_le _, nil_mem_language.2 isNullable⟩
        · cases found

/-- The language of a fixed text holds that text alone. -/
theorem mem_language_fixed {text : String} {piece : List Char} :
    piece ∈ (fixed text).language ↔ piece = text.toList := by
  unfold fixed all
  induction text.toList generalizing piece with
  | nil => simp [language, Language.mem_one]
  | cons c rest ih =>
      rw [List.map_cons, List.foldr_cons, language_followedBy, Language.mem_mul]
      simp only [ih, char, language, mem_characters]
      constructor
      · rintro ⟨left, ⟨other, same, rfl⟩, right, rfl, rfl⟩
        simp only [beq_iff_eq] at same
        rw [same, List.singleton_append]
      · rintro rfl
        exact ⟨[c], ⟨c, by simp, rfl⟩, rest, rfl, rfl⟩

/-- Repetitions of single characters hold only characters of that kind. -/
theorem mem_language_many_one {test : Char → Bool} {piece : List Char}
    (member : piece ∈ (many (one test)).language) : ∀ c ∈ piece, test c = true := by
  obtain ⟨parts, rfl, good⟩ := Language.mem_kstar.1 member
  intro c inPiece
  obtain ⟨part, inParts, inPart⟩ := List.mem_flatten.1 inPiece
  obtain ⟨other, passes, rfl⟩ := good part inParts
  rwa [List.mem_singleton.1 inPart]

/-- Characters of one kind are repetitions of single ones. -/
theorem mem_many_one_of_forall {test : Char → Bool} {piece : List Char}
    (passes : ∀ c ∈ piece, test c = true) : piece ∈ (many (one test)).language := by
  induction piece with
  | nil => exact Language.nil_mem_kstar _
  | cons c rest ih =>
      obtain ⟨first, others⟩ := List.forall_mem_cons.1 passes
      exact cons_mem_kstar.2 ⟨[], rest, ⟨c, first, rfl⟩, ih others, rfl⟩

end GoMend.Pattern
