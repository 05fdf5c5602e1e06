import Mathlib.Data.List.TakeWhile
import GoMend.Text.Blank

/-!
# Trimmed texts

Trimming takes away the characters at both ends that satisfy a test, and nothing from a text that
neither begins nor ends with one.
-/

namespace GoMend.Text

variable {test : Char → Bool} {front inner back : List Char} {text : String}

/-- Whether neither the first nor the last character of a text satisfies the test. -/
structure Trimmed (test : Char → Bool) (text : String) : Prop where
  first : ∀ c ∈ text.toList.head?, test c = false
  last : ∀ c ∈ text.toList.getLast?, test c = false

/-- What stands around a text and satisfies the test is trimmed away. -/
theorem trimBy_surrounded (before : ∀ c ∈ front, test c = true)
    (behind : ∀ c ∈ back, test c = true) :
    trimBy test (String.ofList (front ++ (inner ++ back))) = trimBy test (String.ofList inner) := by
  have reversed : ∀ c ∈ back.reverse, test c = true := fun c member =>
    behind c (List.mem_reverse.1 member)
  simp only [trimBy, String.toList_ofList]
  rw [List.dropWhile_append_of_pos before, List.dropWhile_append]
  split
  · rename_i allDropped
    rw [List.isEmpty_iff.1 allDropped, List.dropWhile_eq_nil_iff.2 behind]
  · rw [List.reverse_append, List.dropWhile_append_of_pos reversed]

theorem dropWhile_eq_self {chars : List Char} :
    chars.dropWhile test = chars ↔ ∀ c ∈ chars.head?, test c = false := by
  cases chars with
  | nil => simp
  | cons c rest =>
      rw [List.dropWhile_eq_self_iff]
      simp

/-- Trimming leaves alone what is trimmed. -/
theorem Trimmed.trimBy (trimmed : Trimmed test text) : trimBy test text = text := by
  rw [Text.trimBy, dropWhile_eq_self.2 trimmed.first, dropWhile_eq_self.2, List.reverse_reverse,
    String.ofList_toList]
  rw [List.head?_reverse]
  exact trimmed.last

/-- What is left by trimming is trimmed. -/
theorem trimmed_trimBy (test : Char → Bool) (text : String) : Trimmed test (trimBy test text) := by
  have begun : ∀ chars : List Char, ∀ c ∈ (chars.dropWhile test).head?, test c = false := by
    intro chars c isFirst
    simpa [Option.mem_def.1 isFirst] using List.head?_dropWhile_not test chars
  have first := begun text.toList
  rw [trimBy]
  generalize text.toList.dropWhile test = chars at first
  constructor <;> rw [String.toList_ofList]
  · -- what is dropped at the back leaves the first character where it is, or nothing at all
    obtain ⟨dropped, sections⟩ := chars.reverse.dropWhile_suffix test
    intro c isFirst
    apply first c
    rw [← List.reverse_reverse chars, ← sections, List.reverse_append, List.head?_append,
      Option.mem_def.1 isFirst]
    rfl
  · rw [List.getLast?_reverse]
    exact begun chars.reverse

/-- A character that does not satisfy the test keeps what stands on its inner sides. -/
theorem trimBy_of_kept {c : Char} (kept : test c = false) :
    trimBy test (String.ofList (front ++ c :: back)) =
      String.ofList (front.dropWhile test ++ c :: (back.reverse.dropWhile test).reverse) := by
  have stops : ∀ before behind : List Char, (before ++ c :: behind).dropWhile test =
      before.dropWhile test ++ c :: behind := by
    intro before behind
    rw [List.dropWhile_append]
    split
    · rename_i allDropped
      rw [List.isEmpty_iff.1 allDropped, List.dropWhile_cons_of_neg (by simp [kept]),
        List.nil_append]
    · rfl
  rw [trimBy, String.toList_ofList, stops, List.reverse_append, List.reverse_cons,
    List.append_assoc, List.singleton_append, stops]
  simp

/-- A text is left as it is exactly if it is trimmed. -/
theorem trimBy_eq_self_iff : trimBy test text = text ↔ Trimmed test text :=
  ⟨fun same => same ▸ trimmed_trimBy test text, Trimmed.trimBy⟩

end GoMend.Text
