import GoMend.Proofs.Text.Narrow
import GoMend.Proofs.Token.Words
import GoMend.Unit.Positions

/-!
# Positions of names and their offsets

A position leads to a name exactly if it is the position of an offset at which a name begins.
With the positions of all offsets, positions and offsets of a text are one to one, and the tables
that hold them in machine words give the same answers.
-/

namespace GoMend

/-! ## In machine words -/

/-- The lines of a text and the offsets of its names, in 32 bits. -/
structure PositionTable where
  lines : LineTable
  idents : Array UInt32

namespace PositionTable

/-- The table of a text. -/
def ofText (text : String) : PositionTable where
  lines := LineTable.ofText text
  idents := ((PositionIndex.ofText text).idents.map (·.toUInt32)).toArray

/-- The offset of the name that begins exactly at the position, which is looked up by halves. -/
def identOffset? (table : PositionTable) (position : WidePosition) : Option UInt32 :=
  (table.lines.offset? position).filter fun offset => (Table.find table.idents offset).isOk

end PositionTable

namespace PositionIndex

variable {text : String} {offset : Nat} {position : Position}

/-- The index of a text knows the offsets at which its names begin. -/
theorem mem_idents_ofText : offset ∈ (ofText text).idents ↔
    ∃ token ∈ (Lexed.ofText text).tokens, token.kind = .identifier ∧ token.offset = offset := by
  simp only [ofText, List.mem_map, List.mem_filter, beq_iff_eq, and_assoc]

/-- The index knows the names in the order of the text. -/
theorem idents_pairwise (text : String) : (ofText text).idents.Pairwise (· < ·) :=
  List.pairwise_map.2 ((Lexed.ofText_within text).2.sublist List.filter_sublist)

theorem le_of_mem_idents (member : offset ∈ (ofText text).idents) :
    offset ≤ text.utf8ByteSize := by
  obtain ⟨token, isWord, _, rfl⟩ := mem_idents_ofText.1 member
  exact Lexed.offset_le_of_mem_ofText isWord

/-- A position leads to a name exactly if a name begins at an offset with this position. -/
theorem identOffset?_eq_some_iff : (ofText text).identOffset? position = some offset ↔
    (LineIndex.ofText text).position offset = position ∧
      ∃ token ∈ (Lexed.ofText text).tokens, token.kind = .identifier ∧ token.offset = offset := by
  have lines : (ofText text).lines = LineIndex.ofText text := rfl
  rw [identOffset?, lines, Option.filter_eq_some_iff,
    (LineIndex.ascending_ofText text).offset?_eq_some_iff, List.contains_iff_mem,
    ← mem_idents_ofText]
  constructor
  · rintro ⟨⟨_, same⟩, member⟩
    exact ⟨same, member⟩
  · rintro ⟨same, member⟩
    exact ⟨⟨le_of_mem_idents member, same⟩, member⟩

end PositionIndex

namespace PositionTable

variable {text : String} (short : text.utf8ByteSize < UInt32.size - 1)

include short

theorem toNat_idents :
    (ofText text).idents.toList.map (·.toNat) = (PositionIndex.ofText text).idents := by
  rw [ofText, List.toList_toArray, List.map_map]
  refine (List.map_congr_left fun offset member => ?_).trans (List.map_id _)
  have inside := PositionIndex.le_of_mem_idents member
  exact UInt32.toNat_ofNat_of_lt' (by omega)

theorem isOk_find_iff (offset : UInt32) : (Table.find (ofText text).idents offset).isOk ↔
    offset.toNat ∈ (PositionIndex.ofText text).idents := by
  have sorted := PositionIndex.idents_pairwise text
  rw [← toNat_idents short, List.pairwise_map] at sorted
  have found := @Table.search_spec _ offset _ _ (sorted.imp UInt32.lt_iff_toNat_lt.2)
    Table.between_all
  have member : offset.toNat ∈ (PositionIndex.ofText text).idents ↔
      offset ∈ (ofText text).idents.toList := by
    rw [← toNat_idents short, List.mem_map]
    simp only [UInt32.toNat_inj, exists_eq_right]
  rw [member, Table.find]
  split at found <;> rename_i isFound
  · simp [isFound, Except.isOk, Except.toBool, found.1]
  · simp [isFound, Except.isOk, Except.toBool, found.1]

/-- The table leads to the names that the index leads to. -/
theorem toNat_identOffset? (position : WidePosition) :
    ((ofText text).identOffset? position).map (·.toNat) =
      (PositionIndex.ofText text).identOffset? position.toPosition := by
  have lines : (PositionIndex.ofText text).lines = LineIndex.ofText text := rfl
  rw [PositionIndex.identOffset?, lines, ← LineTable.toNat_offset? short position, identOffset?]
  change ((LineTable.ofText text).offset? position |>.filter _).map _ = _
  cases (LineTable.ofText text).offset? position with
  | none => rfl
  | some offset =>
      have known : (Table.find (ofText text).idents offset).isOk =
          (PositionIndex.ofText text).idents.contains offset.toNat := by
        rw [Bool.eq_iff_iff, isOk_find_iff short, List.contains_iff_mem]
      rw [Option.map_some, Option.filter_some, Option.filter_some, known]
      split <;> rfl

end PositionTable

namespace PositionIndex

variable {text : String}

/-- Positions and offsets of a text are one to one.  Every offset up to the end is led back to by
its position, no other position leads anywhere, later offsets have later positions, and the line
of an offset counts the line breaks before it.  A name is found at a position exactly if it begins
at the offset with this position.  Tables of machine words say the same. -/
theorem ofText_inverse (short : text.utf8ByteSize < 2 ^ 32 - 1) :
    (∀ offset ≤ text.utf8ByteSize,
      (LineIndex.ofText text).offset? ((LineIndex.ofText text).position offset) = some offset) ∧
    (∀ position offset, (LineIndex.ofText text).offset? position = some offset ↔
      offset ≤ text.utf8ByteSize ∧ (LineIndex.ofText text).position offset = position) ∧
    (∀ position, (LineIndex.ofText text).offset? position = none ↔
      ∀ offset ≤ text.utf8ByteSize, (LineIndex.ofText text).position offset ≠ position) ∧
    (∀ offset later, offset < later →
      ((LineIndex.ofText text).position offset).Before ((LineIndex.ofText text).position later)) ∧
    (∀ offset, ((LineIndex.ofText text).position offset).line =
      ((Text.bytes text).take offset).count 10 + 1) ∧
    (∀ position offset, (ofText text).identOffset? position = some offset ↔
      (LineIndex.ofText text).position offset = position ∧
        ∃ token ∈ (Lexed.ofText text).tokens,
          token.kind = .identifier ∧ token.offset = offset) ∧
    (∀ offset : UInt32, ((PositionTable.ofText text).lines.position offset).toPosition =
      (LineIndex.ofText text).position offset.toNat) ∧
    (∀ position, ((PositionTable.ofText text).lines.offset? position).map (·.toNat) =
      (LineIndex.ofText text).offset? position.toPosition) ∧
    ∀ position, ((PositionTable.ofText text).identOffset? position).map (·.toNat) =
      (ofText text).identOffset? position.toPosition := by
  have ascending := LineIndex.ascending_ofText text
  exact ⟨fun _ inside => LineIndex.offset?_position inside,
    fun _ _ => ascending.offset?_eq_some_iff, fun _ => ascending.offset?_eq_none_iff,
    fun _ _ before => LineIndex.position_before before, LineIndex.line_position_ofText text,
    fun _ _ => identOffset?_eq_some_iff, LineTable.toPosition_position short,
    LineTable.toNat_offset? short, PositionTable.toNat_identOffset? short⟩

/-- A line that begins behind a letter of two bytes, and a column that would wrap around in 32
bits. -/
theorem ofText_inverse_wide :
    "é\nab".utf8ByteSize < 2 ^ 32 - 1 ∧
      (LineIndex.ofText "é\nab").offset? ⟨1, 3⟩ = some 2 ∧
      (LineIndex.ofText "é\nab").offset? ⟨1, 4⟩ = none ∧
      (ofText "é\nab").identOffset? ⟨2, 1⟩ = some 3 ∧
      (PositionTable.ofText "é\nab").lines.offset? ⟨2, 4294967297⟩ = none := by
  have short : "é\nab".utf8ByteSize < 2 ^ 32 - 1 := by decide
  obtain ⟨_, reached, unreached, _, _, named, _, narrowed, _⟩ := ofText_inverse short
  have lineEnd : (LineIndex.ofText "é\nab").position 2 = ⟨1, 3⟩ := by decide
  have lineBegin : (LineIndex.ofText "é\nab").position 3 = ⟨2, 1⟩ := by decide
  refine ⟨short, (reached _ _).2 ⟨by decide, lineEnd⟩, (unreached _).2 (by decide),
    (named _ _).2 ⟨lineBegin, ⟨.identifier, "ab", 3⟩, by decide +kernel, rfl, rfl⟩, ?_⟩
  have wide := narrowed ⟨2, 4294967297⟩
  rw [(unreached _).2 (by decide)] at wide
  exact Option.map_eq_none_iff.1 wide

end PositionIndex

end GoMend
