import Mathlib.Data.List.TakeWhile
import Mathlib.Data.String.Basic
import GoMend.Proofs.Token.Lines

/-!
# Offsets and positions are one to one

An offset of a text has one position, and a position leads to an offset only if it is the position
of that offset.  Positions follow each other as offsets do, and the line of an offset counts the
line breaks among the bytes before it.
-/

namespace GoMend

/-- Whether a position stands on an earlier line than another one, or further to the left. -/
def Position.Before (left right : Position) : Prop :=
  left.line < right.line ∨ left.line = right.line ∧ left.column < right.column

/-- The bytes of a text. -/
def Text.bytes (text : String) : List UInt8 :=
  text.toByteArray.data.toList

theorem Text.bytes_eq (text : String) :
    bytes text = text.toList.flatMap String.utf8EncodeChar := by
  have encoded : text.toByteArray = (text.toList.flatMap String.utf8EncodeChar).toByteArray :=
    String.utf8Encode_toList.symm
  rw [bytes, encoded, List.data_toByteArray]

namespace LineIndex

variable {index : LineIndex} {offset later start count : Nat} {position : Position}

/-! ## From offsets to positions -/

/-- The line of an offset begins at or before it. -/
theorem start_of_line :
    index.starts[(index.later.takeWhile (· ≤ offset)).length]? =
        some ((index.later.takeWhile (· ≤ offset)).getLast?.getD 0) ∧
      (index.later.takeWhile (· ≤ offset)).getLast?.getD 0 ≤ offset := by
  have sections : index.starts =
      0 :: (index.later.takeWhile (· ≤ offset) ++ index.later.dropWhile (· ≤ offset)) := by
    rw [List.takeWhile_append_dropWhile, starts]
  have within : ∀ start ∈ index.later.takeWhile (· ≤ offset), start ≤ offset :=
    fun start member => by simpa using List.mem_takeWhile_imp member
  rw [sections]
  generalize index.later.takeWhile (· ≤ offset) = before at within
  rcases List.eq_nil_or_concat before with rfl | ⟨earlier, last, rfl⟩
  · simp
  · simp [within last (by simp)]

/-- The line behind that of an offset begins behind it. -/
theorem lt_next_line (inside : offset ≤ index.size) :
    offset < index.starts[(index.later.takeWhile (· ≤ offset)).length + 1]?.getD
      (index.size + 1) := by
  rw [starts, List.getElem?_cons_succ]
  induction index.later with
  | nil => exact Nat.lt_succ_of_le inside
  | cons start rest ih =>
      by_cases before : start ≤ offset
      · simpa [List.takeWhile_cons, before] using ih
      · simpa [List.takeWhile_cons, before] using Nat.lt_of_not_le before

/-- The position of an offset leads back to the offset. -/
theorem offset?_position (inside : offset ≤ index.size) :
    index.offset? (index.position offset) = some offset := by
  obtain ⟨begins, before⟩ : _ ∧ _ ≤ offset := start_of_line
  have after := lt_next_line inside
  have back : (index.later.takeWhile (· ≤ offset)).getLast?.getD 0 +
      (offset - (index.later.takeWhile (· ≤ offset)).getLast?.getD 0) = offset :=
    Nat.add_sub_cancel' before
  simp [position, offset?, begins, back, after]

/-! ## From positions to offsets -/

/-- Lines begin one behind the other, and none behind the end of the text. -/
structure Ascending (index : LineIndex) : Prop where
  sorted : index.starts.Pairwise (· < ·)
  within : ∀ start ∈ index.starts, start ≤ index.size

theorem startsAfterBreaks_pairwise (text : List Char) (offset : Nat) :
    (startsAfterBreaks text offset).Pairwise (· < ·) := by
  induction text generalizing offset with
  | nil => exact .nil
  | cons c text ih =>
      rw [startsAfterBreaks]
      split
      · exact .cons (fun start member => (mem_startsAfterBreaks member).1) (ih _)
      · exact ih _

/-- The lines of a text begin one behind the other. -/
theorem ascending_ofText (text : String) : (ofText text).Ascending where
  sorted := .cons (fun _ member => (mem_startsAfterBreaks member).1)
    (startsAfterBreaks_pairwise text.toList 0)
  within := by
    intro start member
    rcases List.mem_cons.1 member with rfl | member
    · exact Nat.zero_le _
    · have inside := (mem_startsAfterBreaks member).2
      rwa [Token.byteLength_toList, Nat.zero_add] at inside

/-- The line behind an earlier one begins no later than a line. -/
theorem Ascending.next_le (ascending : index.Ascending) {earlier line : Nat}
    (less : earlier < line) (begins : index.starts[line]? = some start) (stop : Nat) :
    index.starts[earlier + 1]?.getD stop ≤ start := by
  obtain ⟨inside, rfl⟩ := List.getElem?_eq_some_iff.1 begins
  rw [List.getElem?_eq_getElem (Nat.lt_of_le_of_lt less inside), Option.getD_some]
  rcases Nat.eq_or_lt_of_le less with rfl | further
  · exact Nat.le_refl _
  · exact (List.pairwise_iff_getElem.1 ascending.sorted _ _ _ inside further).le

/-- An offset lies on one line. -/
theorem Ascending.length_takeWhile (ascending : index.Ascending) {line : Nat}
    (begins : index.starts[line]? = some start) (notBefore : start ≤ offset)
    (before : offset < index.starts[line + 1]?.getD (index.size + 1)) :
    offset ≤ index.size ∧ (index.later.takeWhile (· ≤ offset)).length = line := by
  have inside : offset ≤ index.size := by
    cases next : index.starts[line + 1]? with
    | none =>
        rw [next] at before
        exact Nat.le_of_lt_succ before
    | some stop =>
        rw [next] at before
        exact before.le.trans (ascending.within stop (List.mem_of_getElem? next))
  refine ⟨inside, ?_⟩
  obtain ⟨begins', notBefore'⟩ := @start_of_line index offset
  have before' := lt_next_line inside
  rcases Nat.lt_trichotomy (index.later.takeWhile (· ≤ offset)).length line with
    less | same | more
  · have next := ascending.next_le less begins (index.size + 1)
    omega
  · exact same
  · have next := ascending.next_le more begins' (index.size + 1)
    omega

/-- A position leads to an offset exactly if it is the position of that offset. -/
theorem Ascending.offset?_eq_some_iff (ascending : index.Ascending) :
    index.offset? position = some offset ↔
      offset ≤ index.size ∧ index.position offset = position := by
  constructor
  · intro found
    obtain ⟨line, column⟩ := position
    rw [offset?] at found
    split at found
    · cases found
    rename_i counted
    obtain ⟨start, begins, found⟩ := Option.bind_eq_some_iff.1 found
    dsimp only at begins found counted
    split at found
    · rename_i before
      cases found
      have stop : line - 1 + 1 = line := by omega
      rw [← stop] at before
      obtain ⟨inside, sameLine⟩ := ascending.length_takeWhile begins (Nat.le_add_right _ _) before
      have sameStart := (@start_of_line index (start + (column - 1))).1
      rw [sameLine, begins, Option.some.injEq] at sameStart
      refine ⟨inside, ?_⟩
      rw [LineIndex.position, sameLine, ← sameStart, Position.mk.injEq]
      omega
    · cases found
  · rintro ⟨inside, rfl⟩
    exact offset?_position inside

/-- A position leads nowhere exactly if no offset has it. -/
theorem Ascending.offset?_eq_none_iff (ascending : index.Ascending) :
    index.offset? position = none ↔
      ∀ offset ≤ index.size, index.position offset ≠ position := by
  rw [Option.eq_none_iff_forall_ne_some]
  constructor
  · intro nowhere offset inside same
    exact nowhere offset (ascending.offset?_eq_some_iff.2 ⟨inside, same⟩)
  · intro unreached offset found
    obtain ⟨inside, same⟩ := ascending.offset?_eq_some_iff.1 found
    exact unreached offset inside same

/-! ## The order of positions -/

/-- The lines that begin no later than an offset begin no later than a later one. -/
theorem takeWhile_earlier (before : offset ≤ later) :
    index.later.takeWhile (· ≤ offset) <+: index.later.takeWhile (· ≤ later) := by
  induction index.later with
  | nil => exact List.nil_prefix
  | cons start rest ih =>
      by_cases begun : start ≤ offset
      · simpa [List.takeWhile_cons, begun, begun.trans before] using ih
      · simp [List.takeWhile_cons, begun]

/-- A later offset has a later position. -/
theorem position_before (before : offset < later) :
    (index.position offset).Before (index.position later) := by
  have isPrefix := @takeWhile_earlier index _ _ before.le
  rcases Nat.eq_or_lt_of_le isPrefix.length_le with sameLength | further
  · right
    have same := isPrefix.eq_of_length sameLength
    have begins := (@start_of_line index offset).2
    simp only [LineIndex.position, ← same]
    exact ⟨trivial, by omega⟩
  · left
    simpa [LineIndex.position] using further

/-! ## The line of an offset -/

/-- The bytes of a character beyond ASCII are no ASCII bytes. -/
theorem le_of_mem_utf8EncodeChar {c : Char} (wide : 127 < c.toNat) {byte : UInt8}
    (member : byte ∈ String.utf8EncodeChar c) : 128 ≤ byte.toNat := by
  have large : ∀ rest base : Nat, rest + base < 256 → 128 ≤ base →
      128 ≤ (UInt8.ofNat (rest + base)).toNat := by
    intro rest base small large
    rw [UInt8.toNat_ofNat']
    omega
  simp only [String.utf8EncodeChar, Char.toNat_val, if_neg (Nat.not_le.2 wide)] at member
  split at member
  · simp only [List.mem_cons, List.not_mem_nil, or_false] at member
    rcases member with rfl | rfl <;> exact large _ _ (by omega) (by omega)
  · split at member
    · simp only [List.mem_cons, List.not_mem_nil, or_false] at member
      rcases member with rfl | rfl | rfl <;> exact large _ _ (by omega) (by omega)
    · simp only [List.mem_cons, List.not_mem_nil, or_false] at member
      rcases member with rfl | rfl | rfl | rfl <;> exact large _ _ (by omega) (by omega)

/-- The byte of a line break stands for nothing but a line break. -/
theorem count_utf8EncodeChar (c : Char) :
    (String.utf8EncodeChar c).count 10 = if c = '\n' then 1 else 0 := by
  by_cases ascii : c.toNat ≤ 127
  · have encoded : String.utf8EncodeChar c = [UInt8.ofNat c.toNat] := by
      simp only [String.utf8EncodeChar, Char.toNat_val, if_pos ascii]
    have isBreak : UInt8.ofNat c.toNat = 10 ↔ c = '\n' := by
      have small : (UInt8.ofNat c.toNat).toNat = c.toNat := by
        rw [UInt8.toNat_ofNat']
        omega
      rw [← UInt8.toNat_inj, small, ← Char.toNat_inj]
      rfl
    simp [encoded, List.count_singleton, isBreak]
  · have wide : 127 < c.toNat := Nat.lt_of_not_le ascii
    have other : c ≠ '\n' := by
      rintro rfl
      exact ascii (by decide)
    rw [if_neg other, List.count_eq_zero]
    intro member
    exact absurd (le_of_mem_utf8EncodeChar wide member) (by decide)

theorem takeWhile_startsAfterBreaks_eq_nil {text : List Char} (early : later ≤ offset) :
    (startsAfterBreaks text offset).takeWhile (· ≤ later) = [] := by
  rw [List.takeWhile_eq_nil_iff]
  intro nonempty
  have behind := (mem_startsAfterBreaks (List.get_mem _ ⟨0, nonempty⟩)).1
  simp only [decide_eq_true_eq]
  omega

/-- Of the lines that begin behind breaks those are begun whose breaks are among the bytes. -/
theorem length_takeWhile_startsAfterBreaks (text : List Char) (offset count : Nat) :
    ((startsAfterBreaks text offset).takeWhile (· ≤ offset + count)).length =
      ((text.flatMap String.utf8EncodeChar).take count).count 10 := by
  induction text generalizing offset count with
  | nil => simp [startsAfterBreaks]
  | cons c text ih =>
      have size := String.length_utf8EncodeChar c
      have breaks := count_utf8EncodeChar c
      rw [List.flatMap_cons]
      rcases Nat.lt_or_ge count c.utf8Size with inside | behind
      · -- the bytes end inside the character, so not even a line break is complete
        have notBegun : ¬offset + c.utf8Size ≤ offset + count := by omega
        have none_ : ((String.utf8EncodeChar c).take count).count 10 = 0 := by
          by_cases isBreak : c = '\n'
          · subst isBreak
            have nothing : count = 0 := Nat.lt_one_iff.1 inside
            rw [nothing, List.take_zero, List.count_nil]
          · rw [if_neg isBreak] at breaks
            exact Nat.le_zero.1 (breaks ▸ (List.take_sublist count _).count_le 10)
        rw [List.take_append_of_le_length (size.symm ▸ inside.le), none_, startsAfterBreaks]
        split
        · rw [List.takeWhile_cons_of_neg (by simpa using notBegun), List.length_nil]
        · rw [takeWhile_startsAfterBreaks_eq_nil (by omega), List.length_nil]
      · obtain ⟨count, rfl⟩ := Nat.exists_eq_add_of_le behind
        have rest := ih (offset + c.utf8Size) count
        rw [← size, List.take_length_add_append, List.count_append, breaks, ← rest, size,
          startsAfterBreaks, ← Nat.add_assoc]
        split
        · rw [List.takeWhile_cons_of_pos (by simp), List.length_cons, Nat.add_comm]
        · rw [Nat.zero_add]

/-- The line of an offset is told by the line breaks among the bytes before it. -/
theorem line_position_ofText (text : String) (offset : Nat) :
    ((ofText text).position offset).line = ((Text.bytes text).take offset).count 10 + 1 := by
  rw [Text.bytes_eq, ← length_takeWhile_startsAfterBreaks text.toList 0, Nat.zero_add]
  rfl

end LineIndex

namespace Text

/-! ## The order of bytes

Texts are ordered by their characters.  The bytes of a text, in their own order, agree: of two
different characters the lesser one has the lesser byte where their bytes first differ. -/

/-- Whatever follows, the bytes of the lesser character come first. -/
theorem utf8EncodeChar_append_lt {lesser greater : Char} (less : lesser < greater)
    (behind rest : List UInt8) :
    String.utf8EncodeChar lesser ++ behind < String.utf8EncodeChar greater ++ rest := by
  have codes : lesser.val.toNat < greater.val.toNat := less
  have most : ∀ c : Char, c.val.toNat < 0x110000 := by
    intro c
    have valid := c.valid
    rcases valid with low | high
    · exact Nat.lt_of_lt_of_le low (by decide)
    · exact high.2
  have lesserMost := most lesser
  have greaterMost := most greater
  unfold String.utf8EncodeChar
  generalize lesser.val.toNat = low at codes lesserMost
  generalize greater.val.toNat = high at codes greaterMost
  -- the digits of a code in base 64, from the front
  have digits : ∀ code : Nat, code / 64 / 64 = code / 4096 ∧ code / 4096 / 64 = code / 262144 := by
    omega
  obtain ⟨lowTail, lowHead⟩ := digits low
  obtain ⟨highTail, highHead⟩ := digits high
  dsimp only
  split_ifs
  all_goals
    simp (disch := omega) only [List.cons_append, List.nil_append, List.cons_lt_cons_iff,
      UInt8.lt_iff_toNat_lt, ← UInt8.toNat_inj, UInt8.toNat_ofNat', Nat.mod_eq_of_lt]
    omega

/-- A text before another one in the order of characters comes before it in the order of bytes. -/
theorem bytes_lt_of_lt {left right : String} (less : left < right) : bytes left < bytes right := by
  rw [bytes_eq, bytes_eq]
  have chars : left.toList < right.toList := String.lt_iff.1 less
  generalize left.toList = lesser at chars
  generalize right.toList = greater at chars
  induction lesser generalizing greater with
  | nil =>
      cases greater with
      | nil => exact absurd chars (List.not_lt_nil _)
      | cons d greater =>
          obtain ⟨byte, others, encoded⟩ :=
            List.exists_cons_of_ne_nil (l := String.utf8EncodeChar d) (by simp)
          rw [List.flatMap_nil, List.flatMap_cons, encoded]
          exact List.nil_lt_cons _ _
  | cons c lesser ih =>
      cases greater with
      | nil => exact absurd chars (List.not_lt_nil _)
      | cons d greater =>
          rw [List.flatMap_cons, List.flatMap_cons]
          rcases List.cons_lt_cons_iff.1 chars with first | ⟨rfl, behind⟩
          · exact utf8EncodeChar_append_lt first _ _
          · exact List.append_left_lt (ih _ behind)

end Text

end GoMend
