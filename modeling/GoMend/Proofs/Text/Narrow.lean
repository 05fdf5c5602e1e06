import GoMend.Proofs.Text.Offsets

/-!
# Positions in machine words

A table of line starts holds offsets of 32 bits and is searched by halves, while lines and columns
have 64 bits and are narrowed on the way back.  For a text whose size and its successor fit into 32
bits the table gives the positions and offsets of the line index.
-/

namespace GoMend

/-! ## Searching by halves -/

namespace Table

/-- Search a part of an ascending table: the place of a value, or the place where it would have to
stand. -/
def search (table : Array UInt32) (value : UInt32) (low high : Nat) : Except Nat Nat :=
  if low < high then
    let middle := low + (high - low) / 2
    match table[middle]? with
    | none => .error low
    | some found =>
        if found = value then .ok middle
        else if found < value then search table value (middle + 1) high
        else search table value low middle
  else .error low
termination_by high - low

/-- The place of a value in an ascending table, or the one where it would have to stand. -/
def find (table : Array UInt32) (value : UInt32) : Except Nat Nat :=
  search table value 0 table.size

variable {table : Array UInt32} {value : UInt32} {low high place : Nat}

/-- All that stands before one place is smaller than the value, and all from another one on is
greater. -/
structure Between (table : Array UInt32) (value : UInt32) (low high : Nat) : Prop where
  ordered : low ≤ high
  inside : high ≤ table.size
  below : ∀ place entry, table[place]? = some entry → place < low → entry < value
  above : ∀ place entry, table[place]? = some entry → high ≤ place → value < entry

theorem between_all : Between table value 0 table.size where
  ordered := Nat.zero_le _
  inside := Nat.le_refl _
  below := fun _ _ _ before => absurd before (Nat.not_lt_zero _)
  above := by
    intro place entry isEntry behind
    obtain ⟨inside, _⟩ := Array.getElem?_eq_some_iff.1 isEntry
    exact absurd inside (Nat.not_lt.2 behind)

/-- Of two entries of an ascending table the one that stands before the other is smaller. -/
theorem lt_of_place_lt (ascending : table.toList.Pairwise (· < ·)) {one other : Nat}
    {first second : UInt32} (isFirst : table[one]? = some first)
    (isSecond : table[other]? = some second) (before : one < other) : first < second := by
  rw [← Array.getElem?_toList] at isFirst isSecond
  obtain ⟨_, rfl⟩ := List.getElem?_eq_some_iff.1 isFirst
  obtain ⟨_, rfl⟩ := List.getElem?_eq_some_iff.1 isSecond
  exact List.pairwise_iff_getElem.1 ascending one other _ _ before

theorem le_of_place_le (ascending : table.toList.Pairwise (· < ·)) {one other : Nat}
    {first second : UInt32} (isFirst : table[one]? = some first)
    (isSecond : table[other]? = some second) (before : one ≤ other) : first ≤ second := by
  rcases Nat.lt_or_eq_of_le before with before | rfl
  · exact UInt32.le_of_lt (lt_of_place_lt ascending isFirst isSecond before)
  · exact UInt32.le_of_eq (Option.some.inj (isFirst.symm.trans isSecond))

/-- The entries that are no greater than a value are told by the first place of a greater one. -/
theorem length_takeWhile (inside : place ≤ table.size)
    (below : ∀ other entry, table[other]? = some entry → other < place → entry ≤ value)
    (above : ∀ other entry, table[other]? = some entry → place ≤ other → value < entry) :
    (table.toList.takeWhile (· ≤ value)).length = place := by
  have listed : ∀ {other : Nat} {entry : UInt32}, table.toList[other]? = some entry ↔
      table[other]? = some entry := by
    intro other entry
    rw [Array.getElem?_toList]
  have front : ∀ entry ∈ table.toList.take place, decide (entry ≤ value) = true := by
    intro entry member
    obtain ⟨other, isEntry⟩ := List.mem_iff_getElem?.1 member
    rw [List.getElem?_take] at isEntry
    split at isEntry
    · exact decide_eq_true (below other entry (listed.1 isEntry) ‹_›)
    · cases isEntry
  have back : (table.toList.drop place).takeWhile (· ≤ value) = [] := by
    rw [List.takeWhile_eq_nil_iff]
    intro nonempty
    have isEntry : table.toList[place + 0]? =
        some ((table.toList.drop place).get ⟨0, nonempty⟩) := by
      rw [← List.getElem?_drop]
      exact List.getElem?_eq_getElem nonempty
    simpa using above place _ (listed.1 isEntry) (Nat.le_refl _)
  rw [← List.take_append_drop place table.toList, List.takeWhile_append_of_pos front, back,
    List.append_nil, List.length_take]
  exact Nat.min_eq_left (by simpa using inside)

/-- What a search gives: the value stands at the place found, or nowhere.  Either way the place
counts the entries that are no greater than the value. -/
theorem search_spec (ascending : table.toList.Pairwise (· < ·))
    (between : Between table value low high) :
    match search table value low high with
    | .ok place => value ∈ table.toList ∧
        (table.toList.takeWhile (· ≤ value)).length = place + 1
    | .error place => value ∉ table.toList ∧
        (table.toList.takeWhile (· ≤ value)).length = place := by
  fun_induction search table value low high with
  | case1 low high less middle absent =>
      have inside : middle < table.size := by
        have := between.inside
        omega
      rw [Array.getElem?_eq_getElem inside] at absent
      cases absent
  | case2 low high less middle isFound =>
      have inside : middle < table.size := (Array.getElem?_eq_some_iff.1 isFound).1
      refine ⟨List.mem_of_getElem? (Array.getElem?_toList.trans isFound), ?_⟩
      refine length_takeWhile inside ?_ ?_
      · exact fun other entry isEntry before =>
          le_of_place_le ascending isEntry isFound (Nat.le_of_lt_succ before)
      · exact fun other entry isEntry behind => lt_of_place_lt ascending isFound isEntry behind
  | case3 low high less middle found isFound other smaller ih =>
      have inside : middle < table.size := (Array.getElem?_eq_some_iff.1 isFound).1
      refine ih ⟨by omega, between.inside, ?_, between.above⟩
      intro place entry isEntry before
      have entryFound := le_of_place_le ascending isEntry isFound (Nat.le_of_lt_succ before)
      exact UInt32.lt_of_le_of_lt entryFound smaller
  | case4 low high less middle found isFound other notSmaller ih =>
      have larger : value < found :=
        UInt32.lt_of_le_of_ne (UInt32.not_lt.1 notSmaller) (Ne.symm other)
      have inside : middle < table.size := (Array.getElem?_eq_some_iff.1 isFound).1
      refine ih ⟨by omega, inside.le, between.below, ?_⟩
      intro place entry isEntry behind
      exact UInt32.lt_of_lt_of_le larger (le_of_place_le ascending isFound isEntry behind)
  | case5 low high done =>
      have same : low = high := Nat.le_antisymm between.ordered (Nat.le_of_not_lt done)
      subst same
      constructor
      · intro member
        obtain ⟨place, isEntry⟩ := List.mem_iff_getElem?.1 member
        rw [Array.getElem?_toList] at isEntry
        rcases Nat.lt_or_ge place low with before | behind
        · exact UInt32.lt_irrefl value (between.below place value isEntry before)
        · exact UInt32.lt_irrefl value (between.above place value isEntry behind)
      · refine length_takeWhile between.inside ?_ between.above
        exact fun other entry isEntry before =>
          UInt32.le_of_lt (between.below other entry isEntry before)

end Table

/-! ## The table of a text -/

/-- A line and a column, both of 64 bits. -/
structure WidePosition where
  line : UInt64
  column : UInt64
  deriving DecidableEq, Repr

/-- The position as two numbers. -/
def WidePosition.toPosition (position : WidePosition) : Position :=
  ⟨position.line.toNat, position.column.toNat⟩

/-- Where the lines of a text begin, and how many bytes it has, in 32 bits. -/
structure LineTable where
  starts : Array UInt32
  size : UInt32

namespace LineTable

/-- The offsets that follow the line breaks among bytes, the first of which has the offset. -/
def startsAfterBreaks : List UInt8 → UInt32 → List UInt32
  | [], _ => []
  | byte :: rest, offset =>
      if byte = 10 then (offset + 1) :: startsAfterBreaks rest (offset + 1)
      else startsAfterBreaks rest (offset + 1)

/-- The table of a text. -/
def ofText (text : String) : LineTable where
  starts := (0 :: startsAfterBreaks (Text.bytes text) 0).toArray
  size := text.utf8ByteSize.toUInt32

/-- The place in the table of the line of an offset. -/
def lineOf (table : LineTable) (offset : UInt32) : Nat :=
  match Table.find table.starts offset with
  | .ok line => line
  | .error next => next - 1

/-- The position of an offset. -/
def position (table : LineTable) (offset : UInt32) : WidePosition :=
  let line := table.lineOf offset
  { line := line.toUInt64 + 1
    column := (offset - table.starts[line]?.getD 0).toUInt64 + 1 }

/-- The number in 32 bits, if it fits. -/
def narrow? (number : UInt64) : Option UInt32 :=
  if number.toNat < UInt32.size then some number.toUInt32 else none

/-- The sum, if it fits into 32 bits. -/
def add? (left right : UInt32) : Option UInt32 :=
  if left.toNat + right.toNat < UInt32.size then some (left + right) else none

/-- The offset so many columns behind a start, if it lies before the stop. -/
def reach? (start stop : UInt32) (columns : UInt64) : Option UInt32 := do
  let columns ← narrow? columns
  let offset ← add? start columns
  if offset < stop then some offset else none

/-- The offset at a position, if the line exists and the column does not run past its end. -/
def offset? (table : LineTable) (position : WidePosition) : Option UInt32 :=
  if position.line = 0 ∨ position.column = 0 then none
  else do
    let start ← table.starts[(position.line - 1).toNat]?
    let stop := table.starts[position.line.toNat]?.getD (table.size + 1)
    reach? start stop (position.column - 1)

variable {text : String}

theorem startsAfterBreaks_append {front : List UInt8} (rest : List UInt8) (offset : UInt32)
    (unbroken : 10 ∉ front) :
    startsAfterBreaks (front ++ rest) offset =
      startsAfterBreaks rest (offset + front.length.toUInt32) := by
  induction front generalizing offset with
  | nil => simp
  | cons byte front ih =>
      obtain ⟨other, unbroken⟩ := not_or.1 (mt List.mem_cons.2 unbroken)
      rw [List.cons_append, startsAfterBreaks, if_neg (Ne.symm other), ih _ unbroken]
      congr 1
      rw [List.length_cons, Nat.toUInt32_eq, Nat.toUInt32_eq, UInt32.ofNat_add, UInt32.add_assoc,
        UInt32.add_comm (UInt32.ofNat _)]
      rfl

/-- Line breaks are found among bytes where they are found among characters. -/
theorem toNat_startsAfterBreaks (chars : List Char) (offset : UInt32)
    (small : offset.toNat + Token.byteLength chars < UInt32.size) :
    (startsAfterBreaks (chars.flatMap String.utf8EncodeChar) offset).map (·.toNat) =
      LineIndex.startsAfterBreaks chars offset.toNat := by
  induction chars generalizing offset with
  | nil => rfl
  | cons c chars ih =>
      rw [Token.byteLength_cons] at small
      have positive := c.utf8Size_pos
      have behind : (offset + c.utf8Size.toUInt32).toNat = offset.toNat + c.utf8Size := by
        have fits : c.utf8Size < UInt32.size := by omega
        rw [UInt32.toNat_add, Nat.toUInt32_eq, UInt32.toNat_ofNat_of_lt' fits]
        exact Nat.mod_eq_of_lt (show _ < UInt32.size by omega)
      rw [List.flatMap_cons, LineIndex.startsAfterBreaks, ← behind]
      have rest := ih (offset + c.utf8Size.toUInt32) (by omega)
      split
      · rename_i isBreak
        subst isBreak
        exact congrArg (_ :: ·) rest
      · rename_i other
        have unbroken : 10 ∉ String.utf8EncodeChar c := by
          rw [← List.count_eq_zero, LineIndex.count_utf8EncodeChar, if_neg other]
        rw [startsAfterBreaks_append _ _ unbroken, String.length_utf8EncodeChar, rest]

/-- Neither the narrowed column nor the sum loses anything: what does not fit lies behind every
stop. -/
theorem toNat_reach? (start stop : UInt32) (columns : UInt64) :
    (reach? start stop columns).map (·.toNat) =
      if start.toNat + columns.toNat < stop.toNat then some (start.toNat + columns.toNat)
      else none := by
  have small := stop.toNat_lt_size
  by_cases fits : columns.toNat < UInt32.size
  · have narrow : columns.toUInt32.toNat = columns.toNat := by
      rw [UInt64.toNat_toUInt32]
      exact Nat.mod_eq_of_lt fits
    by_cases sumFits : start.toNat + columns.toNat < UInt32.size
    · have sum : (start + columns.toUInt32).toNat = start.toNat + columns.toNat := by
        rw [UInt32.toNat_add, narrow]
        exact Nat.mod_eq_of_lt sumFits
      simp only [reach?, narrow?, add?, if_pos fits, narrow, if_pos sumFits, Option.bind_eq_bind,
        Option.bind_some, UInt32.lt_iff_toNat_lt, sum]
      split
      · rw [Option.map_some, sum]
      · rfl
    · rw [if_neg (by omega)]
      simp [reach?, narrow?, add?, if_pos fits, narrow, if_neg sumFits]
  · rw [if_neg (by omega)]
    simp [reach?, narrow?, if_neg fits]

section

variable (short : text.utf8ByteSize < UInt32.size - 1)

include short

/-- The lines of the table begin where those of the index do. -/
theorem toNat_starts :
    (ofText text).starts.toList.map (·.toNat) = (LineIndex.ofText text).starts := by
  have small : (0 : UInt32).toNat + Token.byteLength text.toList < UInt32.size := by
    rw [Token.byteLength_toList, UInt32.toNat_zero]
    omega
  have later := toNat_startsAfterBreaks text.toList 0 small
  rw [← Text.bytes_eq] at later
  exact congrArg (0 :: ·) later

theorem toNat_size : (ofText text).size.toNat = (LineIndex.ofText text).size := by
  rw [ofText, Nat.toUInt32_eq, UInt32.toNat_ofNat_of_lt' (by omega)]
  rfl

theorem getElem?_starts (line : Nat) :
    (ofText text).starts[line]?.map (·.toNat) = (LineIndex.ofText text).starts[line]? := by
  rw [← toNat_starts short, List.getElem?_map, Array.getElem?_toList]

theorem ascending : (ofText text).starts.toList.Pairwise (· < ·) := by
  have sorted := (LineIndex.ascending_ofText text).sorted
  rw [← toNat_starts short, List.pairwise_map] at sorted
  exact sorted.imp UInt32.lt_iff_toNat_lt.2

/-- The search in the table ends at the line of an offset. -/
theorem lineOf_eq (offset : UInt32) : (ofText text).lineOf offset =
    ((LineIndex.ofText text).later.takeWhile (· ≤ offset.toNat)).length := by
  have found := @Table.search_spec _ offset _ _ (ascending short) Table.between_all
  have counted : ((ofText text).starts.toList.takeWhile (· ≤ offset)).length =
      ((LineIndex.ofText text).starts.takeWhile (· ≤ offset.toNat)).length := by
    rw [← toNat_starts short, List.takeWhile_map, List.length_map]
    simp only [Function.comp_def, UInt32.le_iff_toNat_le]
  rw [counted, LineIndex.starts, List.takeWhile_cons_of_pos (by simp), List.length_cons] at found
  rw [lineOf, Table.find]
  split at found <;> omega

/-- The table gives the positions of the index. -/
theorem toPosition_position (offset : UInt32) :
    ((ofText text).position offset).toPosition = (LineIndex.ofText text).position offset.toNat := by
  generalize isLine : ((LineIndex.ofText text).later.takeWhile (· ≤ offset.toNat)).length = line
  have begins := @LineIndex.start_of_line (.ofText text) offset.toNat
  rw [isLine, ← getElem?_starts short] at begins
  obtain ⟨isStart, notBefore⟩ := begins
  obtain ⟨start, isStart, same⟩ := Option.map_eq_some_iff.1 isStart
  have few : line ≤ text.utf8ByteSize := by
    have counted : ((LineIndex.ofText text).later.takeWhile (· ≤ offset.toNat)).length + 1 = _ :=
      LineIndex.line_position_ofText text offset.toNat
    have length : (Text.bytes text).length = text.utf8ByteSize := rfl
    have within : ((Text.bytes text).take offset.toNat).count 10 ≤ (Text.bytes text).length :=
      List.count_le_length.trans (List.length_take_le' _ _)
    rw [isLine] at counted
    omega
  have wide : UInt32.size < UInt64.size := by decide
  have lineFits : (line.toUInt64 + 1).toNat = line + 1 := by
    rw [UInt64.toNat_add, Nat.toUInt64_eq, UInt64.toNat_ofNat_of_lt' (by omega), UInt64.toNat_one]
    exact Nat.mod_eq_of_lt (show _ < UInt64.size by omega)
  have columnFits : ((offset - start).toUInt64 + 1).toNat = offset.toNat - start.toNat + 1 := by
    have less := UInt32.le_iff_toNat_le.2 (same ▸ notBefore)
    rw [UInt64.toNat_add, UInt32.toNat_toUInt64, UInt32.toNat_sub_of_le _ _ less,
      UInt64.toNat_one]
    have := offset.toNat_lt_size
    exact Nat.mod_eq_of_lt (show _ < UInt64.size by omega)
  simp only [WidePosition.toPosition, position, LineIndex.position, lineOf_eq short, isLine,
    isStart, Option.getD_some, lineFits, columnFits, same]

/-- The table leads to the offsets of the index, and to none where the column or the sum does not
fit into 32 bits. -/
theorem toNat_offset? (position : WidePosition) :
    ((ofText text).offset? position).map (·.toNat) =
      (LineIndex.ofText text).offset? position.toPosition := by
  obtain ⟨line, column⟩ := position
  have zero : ∀ number : UInt64, number = 0 ↔ number.toNat = 0 := fun number => by
    rw [← UInt64.toNat_inj, UInt64.toNat_zero]
  have less : ∀ number : UInt64, number.toNat ≠ 0 → (number - 1).toNat = number.toNat - 1 := by
    intro number positive
    have one_le : (1 : UInt64) ≤ number := by
      rw [UInt64.le_iff_toNat_le, UInt64.toNat_one]
      omega
    rw [UInt64.toNat_sub_of_le _ _ one_le, UInt64.toNat_one]
  have ends : ((ofText text).starts[line.toNat]?.getD ((ofText text).size + 1)).toNat =
      (LineIndex.ofText text).starts[line.toNat]?.getD ((LineIndex.ofText text).size + 1) := by
    have size := toNat_size short
    rw [← getElem?_starts short]
    cases (ofText text).starts[line.toNat]? with
    | some start => rfl
    | none =>
        rw [Option.getD_none, Option.map_none, Option.getD_none, UInt32.toNat_add, UInt32.toNat_one,
          size]
        exact Nat.mod_eq_of_lt (show text.utf8ByteSize + 1 < UInt32.size by omega)
  change _ = (LineIndex.ofText text).offset? ⟨line.toNat, column.toNat⟩
  by_cases counted : line.toNat = 0 ∨ column.toNat = 0
  · have narrow : (ofText text).offset? ⟨line, column⟩ = none :=
      if_pos (counted.imp (zero line).2 (zero column).2)
    have wide : (LineIndex.ofText text).offset? ⟨line.toNat, column.toNat⟩ = none := if_pos counted
    rw [narrow, wide, Option.map_none]
  · obtain ⟨lineCounted, columnCounted⟩ := not_or.1 counted
    rw [offset?, LineIndex.offset?, if_neg (counted ∘ Or.imp (zero line).1 (zero column).1),
      if_neg counted, less line lineCounted, ← getElem?_starts short (line.toNat - 1)]
    cases (ofText text).starts[line.toNat - 1]? with
    | none => rfl
    | some start =>
        simp only [Option.bind_eq_bind, Option.bind_some, Option.map_some, toNat_reach?, ends,
          less column columnCounted]

end

end LineTable

end GoMend
