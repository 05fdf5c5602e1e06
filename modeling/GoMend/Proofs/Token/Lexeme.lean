import GoMend.Proofs.Pattern.Longest
import GoMend.Proofs.Token.Scanning

/-!
# Lexemes

A piece of text is of the first category whose shape covers it.  Scanning cuts a lexeme off
the head of a text exactly where no longer piece fits.
-/

namespace GoMend.Token

open Pattern (covers_iff le_longest? longest?_mem_language)

/-- The first category whose shape covers the whole piece. -/
def covering? (candidates : List (Kind × Pattern)) (piece : List Char) : Option Kind :=
  (candidates.find? fun shape => shape.2.covers piece).map Prod.fst

/-- A piece at the head of the text has one of the shapes. -/
def Fits (candidates : List (Kind × Pattern)) (text piece : List Char) : Prop :=
  ∃ shape ∈ candidates, piece ∈ shape.2.language ∧ piece <+: text

section

variable {kind : Kind} {text piece behind : List Char} {length : Nat}
  {candidates rest : List (Kind × Pattern)} {head : Kind × Pattern}

theorem covering?_cons :
    covering? (head :: rest) piece =
      if head.2.covers piece then some head.1 else covering? rest piece := by
  unfold covering?
  rw [List.find?_cons]
  split <;> simp_all

theorem fits_cons :
    Fits (head :: rest) text piece ↔
      (piece ∈ head.2.language ∧ piece <+: text) ∨ Fits rest text piece := by
  simp [Fits]

/-- A covered piece has one of the shapes. -/
theorem Fits.of_covering? (covered : covering? candidates piece = some kind)
    (begins : piece <+: text) : Fits candidates text piece := by
  obtain ⟨shape, found, -⟩ := Option.map_eq_some_iff.1 covered
  have covers : shape.2.covers piece = true := by simpa using List.find?_some found
  exact ⟨shape, List.mem_of_find?_eq_some found, covers_iff.1 covers, begins⟩

theorem not_fits_of_longestShape? (nothing : longestShape? text candidates = none) :
    ¬Fits candidates text piece := by
  induction candidates with
  | nil => simp [Fits]
  | cons head rest ih =>
      obtain ⟨headKind, shape⟩ := head
      rw [longestShape?] at nothing
      split at nothing
      · split at nothing <;> cases nothing
      · cases nothing
      · rename_i unfit
        rw [fits_cons, not_or]
        refine ⟨?_, ih nothing⟩
        rintro ⟨member, begins⟩
        obtain ⟨_, fit, -⟩ := le_longest? member begins
        simp [unfit] at fit

/-- What is cut off is covered, and nothing longer fits. -/
theorem covering?_of_longestShape? (found : longestShape? text candidates = some (kind, length)) :
    covering? candidates (text.take length) = some kind ∧ length ≤ text.length ∧
      ∀ piece, Fits candidates text piece → piece.length ≤ length := by
  induction candidates generalizing kind length with
  | nil => cases found
  | cons head rest ih =>
      obtain ⟨headKind, shape⟩ := head
      have fit : ∀ {size}, shape.longest? text = some size →
          ∀ piece ∈ shape.language, piece <+: text → piece.length ≤ size := by
        intro size longest piece member begins
        obtain ⟨_, same, bound⟩ := le_longest? member begins
        cases longest.symm.trans same
        exact bound
      rw [longestShape?] at found
      simp only [covering?_cons, fits_cons]
      split at found
      · rename_i size other otherSize headFits restFits
        obtain ⟨inside, member⟩ := longest?_mem_language headFits
        obtain ⟨covered, restInside, bound⟩ := ih restFits
        split at found
        · rename_i wins
          cases found
          refine ⟨if_pos (covers_iff.2 member), inside, ?_⟩
          rintro piece (⟨member, begins⟩ | fits)
          · exact fit headFits piece member begins
          · exact (bound piece fits).trans wins
        · rename_i loses
          cases found
          refine ⟨?_, restInside, ?_⟩
          · rw [if_neg, covered]
            intro headCovers
            have short := fit headFits _ (covers_iff.1 headCovers) (List.take_prefix _ _)
            rw [List.length_take, Nat.min_eq_left restInside] at short
            exact loses short
          · rintro piece (⟨member, begins⟩ | fits)
            · exact (fit headFits piece member begins).trans (Nat.le_of_not_le loses)
            · exact bound piece fits
      · rename_i size headFits restFits
        cases found
        obtain ⟨inside, member⟩ := longest?_mem_language headFits
        refine ⟨if_pos (covers_iff.2 member), inside, ?_⟩
        rintro piece (⟨member, begins⟩ | fits)
        · exact fit headFits piece member begins
        · exact absurd fits (not_fits_of_longestShape? restFits)
      · rename_i headUnfit
        have unfit : ∀ piece ∈ shape.language, ¬piece <+: text := by
          intro piece member begins
          obtain ⟨_, fit, -⟩ := le_longest? member begins
          simp [headUnfit] at fit
        obtain ⟨covered, inside, bound⟩ := ih found
        refine ⟨?_, inside, ?_⟩
        · rw [if_neg, covered]
          exact fun headCovers => unfit _ (covers_iff.1 headCovers) (List.take_prefix _ _)
        · rintro piece (⟨member, begins⟩ | fits)
          · exact absurd begins (unfit piece member)
          · exact bound piece fits

/-- A covered piece is cut off if nothing longer fits. -/
theorem longestShape?_of_covering? (covered : covering? candidates piece = some kind)
    (bound : ∀ longer, Fits candidates (piece ++ behind) longer → longer.length ≤ piece.length) :
    longestShape? (piece ++ behind) candidates = some (kind, piece.length) := by
  have fits : Fits candidates (piece ++ behind) piece :=
    .of_covering? covered (List.prefix_append _ _)
  cases found : longestShape? (piece ++ behind) candidates with
  | none => exact absurd fits (not_fits_of_longestShape? found)
  | some cut =>
      obtain ⟨other, length⟩ := cut
      obtain ⟨otherCovered, inside, otherBound⟩ := covering?_of_longestShape? found
      have long := otherBound piece fits
      have short := bound _ (.of_covering? otherCovered (List.take_prefix _ _))
      rw [List.length_take, Nat.min_eq_left inside] at short
      obtain rfl := Nat.le_antisymm short long
      rw [List.take_left] at otherCovered
      cases covered.symm.trans otherCovered
      rfl

end

end GoMend.Token
