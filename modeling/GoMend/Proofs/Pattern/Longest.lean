import GoMend.Proofs.Pattern.Language

/-!
# Longest matches

A pattern matches a piece as a whole if its derivative by the piece matches nothing more.
The longest match at the head of a text is bounded by no shorter piece of the language, and
by the characters that pieces of the language consist of.
-/

namespace GoMend.Pattern

open scoped Computability

variable {pattern first second : Pattern} {c : Char} {piece text : List Char}

/-- Whether the pattern matches a piece as a whole. -/
def covers (pattern : Pattern) : List Char → Bool
  | [] => pattern.nullable
  | c :: rest => (pattern.derivative c).covers rest

theorem covers_iff : pattern.covers piece = true ↔ piece ∈ pattern.language := by
  induction piece generalizing pattern with
  | nil => exact nil_mem_language.symm
  | cons c rest ih => rw [covers, ih, mem_language_derivative]

/-- A pattern of which some piece is known is not the one that matches nothing. -/
theorem isNever_of_mem (member : piece ∈ pattern.language) : pattern.isNever = false := by
  cases pattern with
  | never => exact member.elim
  | _ => rfl

/-- The longest match is at least as long as any piece that the text begins with. -/
theorem le_longest? (member : piece ∈ pattern.language) (begins : piece <+: text) :
    ∃ length, pattern.longest? text = some length ∧ piece.length ≤ length := by
  induction text generalizing pattern piece with
  | nil =>
      obtain rfl := List.prefix_nil.1 begins
      exact ⟨0, by rw [longest?, if_pos (nil_mem_language.1 member)], Nat.le_refl 0⟩
  | cons c rest ih =>
      cases piece with
      | nil =>
          have isNullable := nil_mem_language.1 member
          rw [longest?, if_pos isNullable]
          split
          · exact ⟨_, rfl, Nat.zero_le _⟩
          · exact ⟨0, rfl, Nat.le_refl 0⟩
      | cons head piece =>
          obtain ⟨rfl, within⟩ := List.cons_prefix_cons.1 begins
          have further := mem_language_derivative.2 member
          obtain ⟨length, longest, bound⟩ := ih further within
          refine ⟨length + 1, ?_, Nat.succ_le_succ bound⟩
          simp only [longest?, isNever_of_mem further, longest, Bool.false_eq_true, if_false]

/-- Every character that a pattern reads passes the test. -/
def ReadsOnly (test : Char → Bool) : Pattern → Prop
  | .one passes => ∀ c, passes c = true → test c = true
  | .seq first second => first.ReadsOnly test ∧ second.ReadsOnly test
  | .either left right => left.ReadsOnly test ∧ right.ReadsOnly test
  | .many body => body.ReadsOnly test
  | _ => True

theorem ReadsOnly.followedBy {test : Char → Bool} (inFirst : first.ReadsOnly test)
    (inSecond : second.ReadsOnly test) : (first.followedBy second).ReadsOnly test := by
  cases first with
  | never => trivial
  | empty => exact inSecond
  | _ => exact ⟨inFirst, inSecond⟩

theorem ReadsOnly.orElse {test : Char → Bool} (inFirst : first.ReadsOnly test)
    (inSecond : second.ReadsOnly test) : (first.orElse second).ReadsOnly test := by
  cases first with
  | never => exact inSecond
  | _ =>
      cases second with
      | never => exact inFirst
      | _ => exact ⟨inFirst, inSecond⟩

theorem ReadsOnly.atLeastOnce {test : Char → Bool} (reads : pattern.ReadsOnly test) :
    pattern.atLeastOnce.ReadsOnly test := by
  have repeated : (many pattern).ReadsOnly test := reads
  exact reads.followedBy repeated

theorem ReadsOnly.optional {test : Char → Bool} (reads : pattern.ReadsOnly test) :
    pattern.optional.ReadsOnly test := by
  have nothing : empty.ReadsOnly test := trivial
  exact reads.orElse nothing

theorem ReadsOnly.all {test : Char → Bool} {patterns : List Pattern}
    (inAll : ∀ pattern ∈ patterns, pattern.ReadsOnly test) : (all patterns).ReadsOnly test := by
  induction patterns with
  | nil => trivial
  | cons pattern rest ih =>
      obtain ⟨inFirst, inRest⟩ := List.forall_mem_cons.1 inAll
      exact inFirst.followedBy (ih inRest)

theorem ReadsOnly.any {test : Char → Bool} {patterns : List Pattern}
    (inAll : ∀ pattern ∈ patterns, pattern.ReadsOnly test) : (any patterns).ReadsOnly test := by
  induction patterns with
  | nil => trivial
  | cons pattern rest ih =>
      obtain ⟨inFirst, inRest⟩ := List.forall_mem_cons.1 inAll
      exact inFirst.orElse (ih inRest)

theorem ReadsOnly.of_mem {test : Char → Bool} (reads : pattern.ReadsOnly test)
    (member : piece ∈ pattern.language) : ∀ c ∈ piece, test c = true := by
  induction pattern generalizing piece with
  | one passes =>
      obtain ⟨c, passed, rfl⟩ := mem_characters.1 member
      simpa using reads c passed
  | seq first second firstIh secondIh =>
      obtain ⟨left, inFirst, right, inSecond, rfl⟩ := Language.mem_mul.1 member
      intro c inPiece
      rcases List.mem_append.1 inPiece with inLeft | inRight
      · exact firstIh reads.1 inFirst c inLeft
      · exact secondIh reads.2 inSecond c inRight
  | either left right leftIh rightIh =>
      rcases (Language.mem_add _ _ _).1 member with inLeft | inRight
      · exact leftIh reads.1 inLeft
      · exact rightIh reads.2 inRight
  | many body ih =>
      obtain ⟨parts, rfl, good⟩ := Language.mem_kstar.1 member
      intro c inPiece
      obtain ⟨part, inParts, inPart⟩ := List.mem_flatten.1 inPiece
      exact ih reads (good part inParts) c inPart
  | empty =>
      obtain rfl := (Language.mem_one _).1 member
      simp
  | _ => exact member.elim

theorem mem_language_char : piece ∈ (char c).language ↔ piece = [c] := by
  simp [char, language, mem_characters]

theorem mem_language_any {patterns : List Pattern} :
    piece ∈ (any patterns).language ↔ ∃ pattern ∈ patterns, piece ∈ pattern.language := by
  induction patterns with
  | nil => simp [any, language]
  | cons pattern rest ih =>
      have folded : any (pattern :: rest) = pattern.orElse (any rest) := rfl
      rw [folded, language_orElse, Language.mem_add, ih]
      simp

theorem mem_language_all {patterns : List Pattern} :
    piece ∈ (all (pattern :: patterns)).language ↔
      ∃ left ∈ pattern.language, ∃ right ∈ (all patterns).language, left ++ right = piece := by
  have folded : all (pattern :: patterns) = pattern.followedBy (all patterns) := rfl
  rw [folded, language_followedBy, Language.mem_mul]

/-- At least one repetition is some number of them. -/
theorem mem_many_of_atLeastOnce (member : piece ∈ pattern.atLeastOnce.language) :
    piece ∈ (many pattern).language := by
  rw [atLeastOnce, language_followedBy] at member
  have below : pattern.language * pattern.language∗ ≤ pattern.language∗ := mul_kstar_le_kstar
  exact below member

end GoMend.Pattern
