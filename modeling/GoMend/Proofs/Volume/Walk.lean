import Mathlib.Data.List.TakeWhile
import GoMend.Proofs.Volume.Tree
import GoMend.Volume.Resolve

/-!
# Walks through a tree

A walk that succeeds ends where the spelling alone leads: the directories that it demands on its
way decide whether it gets there, never where to.  In a tree it ends in a directory that exists.
-/

namespace GoMend.Volume

/-- Both parts of a computation that succeeds succeed. -/
theorem of_bind_eq_ok {ε α β : Type} {first : Except ε α} {next : α → Except ε β} {result : β}
    (succeeds : (first >>= next) = .ok result) :
    ∃ value, first = .ok value ∧ next value = .ok result := by
  cases first with
  | error fault => cases succeeds
  | ok value => exact ⟨value, rfl, succeeds⟩

variable {volume : Volume} {location end_ : Location} {path : Path}

theorem demandDirectory_eq_ok :
    volume.demandDirectory location = .ok () ↔ volume.isDirectory location = true := by
  rw [isDirectory_iff, demandDirectory]
  cases volume.at? location with
  | none => simp
  | some node => cases node <;> simp

/-- A walk of several parts stands in a directory, whose next part is not too long. -/
theorem walk_cons_iff {part : String} {rest : List String} :
    volume.walk location (part :: rest) = .ok end_ ↔
      volume.isDirectory location = true ∧ part.utf8ByteSize ≤ maxNameSize ∧
        volume.walk (location.follow part) rest = .ok end_ := by
  rw [walk, Location.follow]
  cases demanded : volume.demandDirectory location with
  | error fault =>
      constructor
      · intro walked
        cases walked
      · intro walked
        rw [demandDirectory_eq_ok.2 walked.1] at demanded
        cases demanded
  | ok _ =>
      simp only [bind, Except.bind, demandDirectory_eq_ok.1 demanded, true_and]
      by_cases idle : part = "" ∨ part = "."
      · have fits : part.utf8ByteSize ≤ maxNameSize := by
          cases idle with
          | inl same => rw [same]; decide
          | inr same => rw [same]; decide
        rw [if_pos idle, if_pos idle, and_iff_right fits]
      · by_cases up : part = ".."
        · have fits : part.utf8ByteSize ≤ maxNameSize := by
            rw [up]; decide
          rw [if_neg idle, if_neg idle, if_pos up, if_pos up, and_iff_right fits]
        · rw [if_neg idle, if_neg idle, if_neg up, if_neg up]
          by_cases fits : part.utf8ByteSize ≤ maxNameSize
          · rw [if_neg (Nat.not_lt.2 fits), and_iff_right fits]
          · rw [if_pos (Nat.not_le.1 fits)]
            constructor
            · intro walked
              cases walked
            · intro walked
              exact absurd walked.1 fits

/-- The first part of a walk. -/
theorem walk_cons {part : String} {rest : List String}
    (walked : volume.walk location (part :: rest) = .ok end_) :
    volume.isDirectory location = true ∧
      volume.walk (location.follow part) rest = .ok end_ :=
  ⟨(walk_cons_iff.1 walked).1, (walk_cons_iff.1 walked).2.2⟩

/-- A walk ends where its parts lead. -/
theorem walk_eq {parts : List String} (walked : volume.walk location parts = .ok end_) :
    end_ = parts.foldl Location.follow location := by
  induction parts generalizing location with
  | nil => exact (Except.ok.inj walked).symm
  | cons part rest ih => exact ih (walk_cons walked).2

/-- A walk that gets through its parts gets through the first of them. -/
theorem walk_front {before after : List String}
    (walked : volume.walk location (before ++ after) = .ok end_) :
    volume.walk location before = .ok (before.foldl Location.follow location) := by
  induction before generalizing location with
  | nil => rfl
  | cons part rest ih =>
      have first := walk_cons_iff.1 walked
      exact walk_cons_iff.2 ⟨first.1, first.2.1, ih first.2.2⟩

/-- Before its last part a walk stands in a directory. -/
theorem walk_concat {parts : List String} {part : String}
    (walked : volume.walk location (parts ++ [part]) = .ok end_) :
    volume.isDirectory (parts.foldl Location.follow location) = true := by
  induction parts generalizing location with
  | nil => exact (walk_cons walked).1
  | cons _ rest ih => exact ih (walk_cons walked).2

namespace IsTree

/-- In a tree a walk never leaves the directories. -/
theorem above_follow (tree : volume.IsTree) (isDirectory : volume.isDirectory location = true)
    (part : String) : volume.isDirectory (location.follow part).dropLast = true := by
  rw [Location.follow]
  split
  · exact tree.above isDirectory
  · split
    · exact tree.above (tree.above isDirectory)
    · rw [List.dropLast_concat]
      exact isDirectory

theorem above_walk (tree : volume.IsTree) {parts : List String}
    (walked : volume.walk location parts = .ok end_)
    (above : parts = [] → volume.isDirectory location.dropLast = true) :
    volume.isDirectory end_.dropLast = true := by
  induction parts generalizing location with
  | nil => exact Except.ok.inj walked ▸ above rfl
  | cons part rest ih =>
      obtain ⟨isDirectory, further⟩ := walk_cons walked
      exact ih further fun _ => tree.above_follow isDirectory part

end IsTree

/-! ## Routes -/

/-- Where the walk to a path starts from, and its parts. -/
structure Routes (volume : Volume) (path : Path) (start : Location) (parts : List String) :
    Prop where
  nonempty : path.text ≠ ""
  start : start = if path.isAbsolute then [] else volume.workDir
  parts : path.segments = if path.isAbsolute then "" :: parts else parts

theorem route_eq_ok {start : Location} {parts : List String}
    (routed : volume.route path = .ok (start, parts)) : Routes volume path start parts := by
  rw [route] at routed
  split at routed
  · cases routed
  · split at routed
    · cases routed
    · rename_i nonempty
      split at routed
      · cases routed
      · split at routed
        · rename_i absolute
          obtain ⟨rest, segments⟩ :=
            List.head?_eq_some_iff.1 ((Path.isAbsolute_iff path).1 absolute).2
          cases routed
          exact ⟨nonempty, by rw [if_pos absolute], by rw [if_pos absolute, segments]; rfl⟩
        · rename_i relative
          cases routed
          exact ⟨nonempty, by rw [if_neg relative], by rw [if_neg relative]⟩

theorem Routes.foldl {start : Location} {parts : List String}
    (routes : Routes volume path start parts) :
    parts.foldl Location.follow start = path.location volume.workDir := by
  rw [Path.location, routes.parts, routes.start]
  split
  · rfl
  · rfl

theorem locate_eq (located : volume.locate path = .ok end_) :
    end_ = path.location volume.workDir := by
  obtain ⟨route, routed, walked⟩ := of_bind_eq_ok located
  rw [← (route_eq_ok routed).foldl]
  exact walk_eq walked

theorem text_ne_of_lookup {path : Path} {found : Location × Node}
    (leads : volume.lookup path = .ok found) : path.text ≠ "" := by
  obtain ⟨there, located, -⟩ := of_bind_eq_ok leads
  obtain ⟨⟨start, parts⟩, routed, -⟩ := of_bind_eq_ok located
  exact (route_eq_ok routed).nonempty

/-- The parts of a spelling without slashes behind the last of them. -/
def trimmed (parts : List String) : List String :=
  (parts.reverse.dropWhile (· == "")).reverse

theorem foldl_trimmed (parts : List String) (start : Location) :
    (trimmed parts).foldl Location.follow start = parts.foldl Location.follow start := by
  have reversed : ∀ parts : List String, (parts.dropWhile (· == "")).reverse.foldl
      Location.follow start = parts.reverse.foldl Location.follow start := by
    intro parts
    induction parts with
    | nil => rfl
    | cons part rest ih =>
        rw [List.dropWhile_cons]
        split
        · rename_i isEmpty
          rw [ih, List.reverse_cons, Path.foldl_follow_idle (.inl (beq_iff_eq.1 isEmpty))]
        · rfl
  rw [trimmed, reversed, List.reverse_reverse]

theorem trimmed_concat (parts : List String) {part : String} (nonempty : part ≠ "") :
    trimmed (parts ++ [part]) = parts ++ [part] := by
  rw [trimmed, List.reverse_concat, List.dropWhile_cons_of_neg (by simpa using nonempty),
    List.reverse_cons, List.reverse_reverse]

theorem trimmed_prefix (parts : List String) : trimmed parts <+: parts := by
  have behind := List.dropWhile_suffix (fun part : String => part == "") (l := parts.reverse)
  rw [← List.reverse_prefix, List.reverse_reverse] at behind
  exact behind

theorem eq_nil_of_trimmed {parts : List String} (empty : trimmed parts = []) :
    ∀ part ∈ parts, part = "" := by
  intro part member
  rw [trimmed, List.reverse_eq_nil_iff, List.dropWhile_eq_nil_iff] at empty
  exact beq_iff_eq.1 (empty part (List.mem_reverse.2 member))

/-- The walk to where a new entry goes. -/
theorem locateNew_eq_ok (located : volume.locateNew path = .ok end_) :
    ∃ start parts, Routes volume path start parts ∧
      volume.walk start (trimmed parts) = .ok end_ := by
  obtain ⟨route, routed, walked⟩ := of_bind_eq_ok located
  exact ⟨route.1, route.2, route_eq_ok routed, walked⟩

theorem locateNew_eq (located : volume.locateNew path = .ok end_) :
    end_ = path.location volume.workDir := by
  obtain ⟨start, parts, routes, walked⟩ := locateNew_eq_ok located
  rw [← routes.foldl, ← foldl_trimmed]
  exact walk_eq walked

/-- A new entry of a name that leads somewhere would go there. -/
theorem locateNew_of_locate (located : volume.locate path = .ok end_) :
    volume.locateNew path = .ok end_ := by
  have leads := locate_eq located
  obtain ⟨⟨start, parts⟩, routed, walked⟩ := of_bind_eq_ok located
  obtain ⟨slashes, split⟩ := trimmed_prefix parts
  rw [← split] at walked
  have front := walk_front walked
  rw [foldl_trimmed, (route_eq_ok routed).foldl, ← leads] at front
  rw [locateNew, routed]
  exact front

/-- A new entry goes into a directory. -/
theorem IsTree.above_locateNew (tree : volume.IsTree)
    (located : volume.locateNew path = .ok end_) : volume.isDirectory end_.dropLast = true := by
  obtain ⟨start, parts, routes, walked⟩ := locateNew_eq_ok located
  refine tree.above_walk walked fun empty => ?_
  have segments := routes.parts
  rw [routes.start]
  split
  · exact isDirectory_root volume
  · rename_i relative
    rw [if_neg relative] at segments
    -- a relative path begins with a part that is not empty
    refine absurd ((Path.isAbsolute_iff path).2 ⟨routes.nonempty, ?_⟩) relative
    cases parts with
    | nil => exact absurd segments path.segments_ne_nil
    | cons first rest =>
        rw [segments, List.head?_cons, eq_nil_of_trimmed empty first List.mem_cons_self]

theorem proper_follow {part : String} (proper : ∀ name ∈ location, ProperName name)
    (slash : '/' ∉ part.toList) : ∀ name ∈ location.follow part, ProperName name := by
  intro name member
  rw [Location.follow] at member
  split at member
  · exact proper name member
  · rename_i other
    rw [not_or] at other
    split at member
    · exact proper name ((List.dropLast_sublist _).mem member)
    · rename_i notParent
      rcases List.mem_append.1 member with old | new
      · exact proper name old
      · rw [List.mem_singleton.1 new]
        exact ⟨other.1, other.2, notParent, slash⟩

/-- All names on the way to a path are proper. -/
theorem IsTree.proper_location (tree : volume.IsTree) (path : Path) :
    ∀ name ∈ path.location volume.workDir, ProperName name := by
  have followed : ∀ (parts : List String) (start : Location),
      (∀ part ∈ parts, '/' ∉ part.toList) → (∀ name ∈ start, ProperName name) →
        ∀ name ∈ parts.foldl Location.follow start, ProperName name := by
    intro parts
    induction parts with
    | nil => exact fun _ _ proper => proper
    | cons part rest ih =>
        intro start slash proper
        exact ih _ (fun part member => slash part (List.mem_cons_of_mem _ member))
          (proper_follow proper (slash part List.mem_cons_self))
  refine followed _ _ (fun _ => Path.slash_of_mem_segments) ?_
  split
  · nofun
  · exact tree.workNames

/-! ## Names joined to a directory -/

/-- The last part on the way to a name that was joined to a directory is the name. -/
theorem Routes.exists_concat {base : Path} (nonempty : base.text ≠ "") {name : String}
    (slash : '/' ∉ name.toList) {start : Location} {parts : List String}
    (routes : Routes volume (base.join name) start parts) :
    ∃ above, parts = above ++ [name] := by
  obtain ⟨before, some_, segments, -⟩ := Path.join_segments nonempty slash
  have split := routes.parts
  rw [segments] at split
  split at split
  · cases before with
    | nil => exact absurd rfl some_
    | cons first rest => exact ⟨rest, (List.cons.inj split).2.symm⟩
  · exact ⟨before, split.symm⟩

/-- Such a name leads to where a new entry goes: no slash stands behind it. -/
theorem locate_of_locateNew {base : Path} (nonempty : base.text ≠ "") {name : String}
    (slash : '/' ∉ name.toList) (named : name ≠ "")
    (located : volume.locateNew (base.join name) = .ok end_) :
    volume.locate (base.join name) = .ok end_ := by
  obtain ⟨⟨start, parts⟩, routed, walked⟩ := of_bind_eq_ok located
  obtain ⟨above, rfl⟩ := (route_eq_ok routed).exists_concat nonempty slash
  change volume.walk start (trimmed (above ++ [name])) = .ok end_ at walked
  rw [trimmed_concat above named] at walked
  rw [locate, routed]
  exact walked

/-- A new entry under a name joined to a directory goes into it, unless a directory stands there. -/
theorem IsTree.locateNew_join (tree : volume.IsTree) {base : Path} (nonempty : base.text ≠ "")
    {name : String} (slash : '/' ∉ name.toList) (named : name ≠ "")
    (located : volume.locateNew (base.join name) = .ok end_)
    (free : volume.isDirectory end_ = false) :
    end_ = base.location volume.workDir ++ [name] := by
  obtain ⟨start, parts, routes, walked⟩ := locateNew_eq_ok located
  obtain ⟨above, rfl⟩ := routes.exists_concat nonempty slash
  rw [trimmed_concat above named] at walked
  have isDirectory := walk_concat walked
  have ends : end_ = (above.foldl Location.follow start).follow name := by
    rw [walk_eq walked, List.foldl_append]
    rfl
  have proper : ProperName name := by
    refine ⟨named, ?_, ?_, slash⟩
    · rintro rfl
      rw [ends] at free
      exact absurd isDirectory (ne_true_of_eq_false free)
    · rintro rfl
      rw [ends] at free
      exact absurd (tree.above isDirectory) (ne_true_of_eq_false free)
  rw [locateNew_eq located, Path.location_join _ nonempty slash, proper.follow]

end GoMend.Volume
