/-!
# Sets of characters given by ranges

A property of characters is listed as closed ranges of code points in ascending
order.  Membership stops at the first range that begins above the character, so
a query for a small code point looks at few ranges.
-/

namespace GoMend.Text

/-- Closed ranges of code points, in ascending order. -/
abbrev Ranges := List (Nat × Nat)

/-- Whether a code point lies in one of the ranges. -/
def Ranges.contains : Ranges → Nat → Bool
  | [], _ => false
  | (low, high) :: rest, code =>
      if code < low then false
      else code ≤ high || Ranges.contains rest code

/-- Whether one of the ranges has a code point in common with the given range. -/
def Ranges.meets (ranges : Ranges) (low high : Nat) : Bool :=
  ranges.any fun range => range.1 ≤ high && low ≤ range.2

/-- Every range is closed and ends before the next one begins. -/
def Ranges.Ascending : Ranges → Prop
  | [] => True
  | (low, high) :: rest =>
      low ≤ high ∧ (∀ range ∈ rest, high < range.1) ∧ Ranges.Ascending rest

/-- On ascending ranges, stopping early loses no member. -/
theorem Ranges.contains_iff {ranges : Ranges} (ascending : ranges.Ascending)
    (code : Nat) :
    ranges.contains code = true ↔
      ∃ range ∈ ranges, range.1 ≤ code ∧ code ≤ range.2 := by
  induction ranges with
  | nil => simp [Ranges.contains]
  | cons range rest ih =>
      obtain ⟨low, high⟩ := range
      obtain ⟨closed, before, ascendingRest⟩ := ascending
      simp only [Ranges.contains]
      split
      · rename_i below
        constructor
        · intro impossible
          cases impossible
        · rintro ⟨member, isMember, least, _⟩
          rcases List.mem_cons.1 isMember with rfl | inRest
          · simp at least
            omega
          · have := before member inRest
            omega
      · rename_i reached
        simp only [Bool.or_eq_true, decide_eq_true_eq, ih ascendingRest,
          List.mem_cons, exists_eq_or_imp]
        constructor
        · rintro (small | found)
          · exact Or.inl ⟨by omega, small⟩
          · exact Or.inr found
        · rintro (⟨_, small⟩ | found)
          · exact Or.inl small
          · exact Or.inr found

end GoMend.Text
