import GoMend.Proofs.Volume.Path

/-!
# Volumes as trees

A volume is a tree if every entry lies in a directory.  What puts, erases and clears entries keeps
it a tree and leaves alone what stands elsewhere.
-/

namespace GoMend

/-- The location lies strictly below a directory. -/
structure Location.Inside (dir location : Location) : Prop where
  below : dir <+: location
  apart : location ≠ dir

namespace Location.Inside

variable {dir location : Location}

theorem of_dropLast (inside : Inside dir location.dropLast) : Inside dir location := by
  refine ⟨inside.below.trans (List.dropLast_prefix location), ?_⟩
  rintro rfl
  exact inside.apart
    (inside.below.eq_of_length_le (List.dropLast_prefix _).length_le).symm

theorem of_concat {name : String} (inside : Inside dir (location ++ [name])) :
    dir <+: location :=
  (List.prefix_concat_iff.1 inside.below).resolve_left fun same => inside.apart same.symm

theorem iff_isPrefixOf : Inside dir location ↔
    (dir.isPrefixOf location && decide (location ≠ dir)) = true := by
  rw [Bool.and_eq_true, List.isPrefixOf_iff_prefix, decide_eq_true_iff]
  exact ⟨fun inside => ⟨inside.below, inside.apart⟩, fun both => ⟨both.1, both.2⟩⟩

end Location.Inside

namespace Volume

/-- Every entry lies in a directory, and its name is one that an entry can have. -/
structure IsTree (volume : Volume) : Prop where
  workNames : ∀ name ∈ volume.workDir, ProperName name
  names : ∀ entry ∈ volume.entries, ∀ name ∈ entry.1, ProperName name
  parents : ∀ entry ∈ volume.entries, volume.isDirectory entry.1.dropLast = true

instance (volume : Volume) : Decidable volume.IsTree :=
  decidable_of_iff ((∀ name ∈ volume.workDir, ProperName name) ∧
      (∀ entry ∈ volume.entries, ∀ name ∈ entry.1, ProperName name) ∧
        ∀ entry ∈ volume.entries, volume.isDirectory entry.1.dropLast = true)
    ⟨fun ⟨workNames, names, parents⟩ => ⟨workNames, names, parents⟩,
      fun ⟨workNames, names, parents⟩ => ⟨workNames, names, parents⟩⟩

/-- No location has two entries. -/
def Unique (volume : Volume) : Prop :=
  (volume.entries.map Prod.fst).Nodup

instance (volume : Volume) : Decidable volume.Unique :=
  inferInstanceAs (Decidable (volume.entries.map Prod.fst).Nodup)

/-- What the file at a location holds, if one stands there. -/
def fileAt? (volume : Volume) (location : Location) : Option Content :=
  match volume.at? location with
  | some (.file content) => some content
  | _ => none

variable {volume : Volume} {location other : Location} {node : Node}

theorem isDirectory_iff : volume.isDirectory location = true ↔
    volume.at? location = some .directory :=
  beq_iff_eq

theorem isDirectory_root (volume : Volume) : volume.isDirectory [] = true :=
  isDirectory_iff.2 (if_pos rfl)

theorem at?_eq_find? (nonempty : location ≠ []) :
    volume.at? location = (volume.entries.find? (·.1 = location)).map (·.2) :=
  if_neg nonempty

theorem mem_of_at? (nonempty : location ≠ []) (stands : volume.at? location = some node) :
    (location, node) ∈ volume.entries := by
  rw [at?_eq_find? nonempty, Option.map_eq_some_iff] at stands
  obtain ⟨⟨there, _⟩, found, rfl⟩ := stands
  have same : there = location := by simpa using List.find?_some found
  rw [← same]
  exact List.mem_of_find?_eq_some found

/-- What stands above a directory is a directory. -/
theorem IsTree.above (tree : volume.IsTree) (isDirectory : volume.isDirectory location = true) :
    volume.isDirectory location.dropLast = true := by
  by_cases root : location = []
  · rw [root]
    exact isDirectory_root volume
  · exact tree.parents _ (mem_of_at? root (isDirectory_iff.1 isDirectory))

theorem dropLast_ne (nonempty : location ≠ []) : location.dropLast ≠ location := by
  intro same
  have shorter := congrArg List.length same
  rw [List.length_dropLast] at shorter
  have := List.length_pos_iff.2 nonempty
  omega

/-! ## Putting -/

theorem at?_put_other (apart : other ≠ location) :
    (volume.put location node).at? other = volume.at? other := by
  have kept : ∀ entries : List (Location × Node),
      (entries.map fun entry => if entry.1 = location then (location, node) else entry).find?
        (·.1 = other) = entries.find? (·.1 = other) := by
    intro entries
    induction entries with
    | nil => rfl
    | cons entry rest ih =>
        rw [List.map_cons, List.find?_cons, List.find?_cons, ih]
        by_cases here : entry.1 = location
        · have elsewhere : ¬entry.1 = other := fun same => apart (same ▸ here)
          rw [if_pos here, decide_eq_false apart.symm, decide_eq_false elsewhere]
        · rw [if_neg here]
  by_cases root : other = []
  · rw [at?, at?, if_pos root, if_pos root]
  rw [at?_eq_find? root, at?_eq_find? root, put]
  split
  · rw [kept]
  · rw [List.find?_append, List.find?_singleton, if_neg (by simpa using apart.symm), Option.or_none]

theorem at?_put_self (nonempty : location ≠ []) :
    (volume.put location node).at? location = some node := by
  have replaced : ∀ entries : List (Location × Node), entries.any (·.1 = location) →
      (entries.map fun entry => if entry.1 = location then (location, node) else entry).find?
        (·.1 = location) = some (location, node) := by
    intro entries stands
    induction entries with
    | nil => cases stands
    | cons entry rest ih =>
        rw [List.map_cons, List.find?_cons]
        by_cases here : entry.1 = location
        · rw [if_pos here, decide_eq_true rfl]
        · rw [List.any_cons, decide_eq_false here, Bool.false_or] at stands
          rw [if_neg here, decide_eq_false here]
          exact ih stands
  rw [at?_eq_find? nonempty, put]
  split
  · rename_i stands
    rw [replaced _ stands]
    rfl
  · rename_i absent
    have missing : volume.entries.find? (·.1 = location) = none := by
      rw [← Option.not_isSome_iff_eq_none, List.find?_isSome, ← List.any_eq_true]
      exact absent
    rw [List.find?_append, missing, List.find?_singleton, if_pos (decide_eq_true rfl)]
    rfl

theorem mem_put {entry : Location × Node} (member : entry ∈ (volume.put location node).entries) :
    entry = (location, node) ∨ entry ∈ volume.entries := by
  rw [put] at member
  split at member
  · obtain ⟨old, isOld, rfl⟩ := List.mem_map.1 member
    split
    · exact .inl rfl
    · exact .inr isOld
  · rcases List.mem_append.1 member with old | new
    · exact .inr old
    · exact .inl (List.mem_singleton.1 new)

theorem workDir_put : (volume.put location node).workDir = volume.workDir := by
  rw [put]
  split <;> rfl

theorem Unique.put (unique : volume.Unique) : (volume.put location node).Unique := by
  rw [Unique, Volume.put]
  split
  · have kept : Prod.fst ∘ (fun entry : Location × Node =>
        if entry.1 = location then (location, node) else entry) = Prod.fst := by
      funext entry
      simp only [Function.comp_apply]
      split
      · rename_i here
        exact here.symm
      · rfl
    rw [List.map_map, kept]
    exact unique
  · rename_i absent
    rw [List.map_append, List.map_singleton]
    refine List.nodup_append.2 ⟨unique, List.pairwise_singleton _ _, ?_⟩
    intro key member other single
    rw [List.mem_singleton.1 single]
    rintro rfl
    obtain ⟨entry, isEntry, here⟩ := List.mem_map.1 member
    exact absent (List.any_eq_true.2 ⟨entry, isEntry, decide_eq_true here⟩)

theorem isDirectory_put_other (apart : other ≠ location) :
    (volume.put location node).isDirectory other = volume.isDirectory other := by
  rw [isDirectory, isDirectory, at?_put_other apart]

/-- A node in a directory, put where no directory stood. -/
theorem IsTree.put (tree : volume.IsTree) (proper : ∀ name ∈ location, ProperName name)
    (below : volume.isDirectory location.dropLast = true)
    (free : volume.isDirectory location = false) : (volume.put location node).IsTree := by
  have nonempty : location ≠ [] := by
    rintro rfl
    rw [isDirectory_root] at free
    cases free
  refine ⟨?_, ?_, ?_⟩
  · rw [workDir_put]
    exact tree.workNames
  · intro entry member
    rcases mem_put member with rfl | old
    · exact proper
    · exact tree.names entry old
  · intro entry member
    rcases mem_put member with rfl | old
    · rw [isDirectory_put_other (dropLast_ne nonempty)]
      exact below
    · have above := tree.parents entry old
      have apart : entry.1.dropLast ≠ location := by
        intro same
        rw [same, free] at above
        cases above
      rw [isDirectory_put_other apart]
      exact above

/-! ## Erasing -/

theorem at?_filter {keep : Location × Node → Bool}
    (kept : ∀ entry, entry.1 = other → keep entry = true) :
    ({ volume with entries := volume.entries.filter keep } : Volume).at? other =
      volume.at? other := by
  by_cases root : other = []
  · rw [at?, at?, if_pos root, if_pos root]
  have same : (fun entry : Location × Node =>
      decide (keep entry = true ∧ decide (entry.1 = other) = true)) =
        fun entry => decide (entry.1 = other) := by
    funext entry
    rw [decide_eq_decide, decide_eq_true_iff]
    exact and_iff_right_of_imp (kept entry)
  rw [at?_eq_find? root, at?_eq_find? root, List.find?_filter, same]

theorem Unique.filter (unique : volume.Unique) (keep : Location × Node → Bool) :
    ({ volume with entries := volume.entries.filter keep } : Volume).Unique :=
  unique.sublist (List.filter_sublist.map Prod.fst)

theorem at?_erase_other (apart : other ≠ location) :
    (volume.erase location).at? other = volume.at? other :=
  at?_filter fun _ here => decide_eq_true (here ▸ apart)

theorem at?_erase_self (nonempty : location ≠ []) :
    (volume.erase location).at? location = none := by
  rw [at?_eq_find? nonempty, erase, List.find?_filter, Option.map_eq_none_iff,
    List.find?_eq_none]
  intro entry _
  simp

theorem at?_eraseBelow_other (outside : ¬location.Inside other) :
    (volume.eraseBelow location).at? other = volume.at? other := by
  refine at?_filter fun entry here => ?_
  rw [here, Bool.not_eq_true', Bool.eq_false_iff, ne_eq, ← Location.Inside.iff_isPrefixOf]
  exact outside

theorem at?_eraseBelow_inside (inside : location.Inside other) :
    (volume.eraseBelow location).at? other = none := by
  have nonempty : other ≠ [] := by
    rintro rfl
    exact inside.apart (List.prefix_nil.1 inside.below).symm
  rw [at?_eq_find? nonempty, eraseBelow, List.find?_filter, Option.map_eq_none_iff,
    List.find?_eq_none]
  intro entry _
  by_cases here : entry.1 = other
  · simp [here, inside.below, inside.apart]
  · simp [here]

/-- Entries taken away from a tree, none of which held others that stay. -/
theorem IsTree.filter (tree : volume.IsTree) {keep : Location × Node → Bool}
    (kept : ∀ entry ∈ volume.entries, keep entry = true →
      ∀ above, above.1 = entry.1.dropLast → keep above = true) :
    ({ volume with entries := volume.entries.filter keep } : Volume).IsTree := by
  refine ⟨tree.workNames, ?_, ?_⟩
  · intro entry member
    exact tree.names entry (List.mem_of_mem_filter member)
  · intro entry member
    obtain ⟨old, stays⟩ := List.mem_filter.1 member
    rw [isDirectory, at?_filter (kept entry old stays)]
    exact tree.parents entry old

/-- What held nothing is taken away. -/
theorem IsTree.erase (tree : volume.IsTree)
    (childless : ∀ entry ∈ volume.entries, entry.1.dropLast = location → entry.1 = location) :
    (volume.erase location).IsTree := by
  refine tree.filter fun entry member stays above isAbove => ?_
  refine decide_eq_true fun here => of_decide_eq_true stays (childless entry member ?_)
  rw [← isAbove, here]

theorem IsTree.eraseBelow (tree : volume.IsTree) : (volume.eraseBelow location).IsTree := by
  refine tree.filter fun entry member stays above isAbove => ?_
  rw [Bool.not_eq_true', Bool.eq_false_iff, ne_eq, ← Location.Inside.iff_isPrefixOf] at stays ⊢
  rw [isAbove]
  exact fun inside => stays inside.of_dropLast

end Volume

end GoMend
