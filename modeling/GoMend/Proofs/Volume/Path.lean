import Mathlib.Data.List.Basic
import GoMend.Volume.Basic
import GoMend.Volume.Path

/-!
# Where paths lead

The spelling of a path leads to a location by its parts alone, as long as every part but the last
stands for a directory.  Joining a name to a path goes one part further, whatever slashes and dots
the path ends in, and replacing the last name goes to its neighbour.
-/

namespace GoMend

/-- Where a part of a spelling leads from a location. -/
def Location.follow (location : Location) (part : String) : Location :=
  if part = "" ∨ part = "." then location
  else if part = ".." then location.dropLast
  else location ++ [part]

/-- A name that an entry of a directory can have. -/
structure ProperName (name : String) : Prop where
  nonempty : name ≠ ""
  current : name ≠ "."
  parent : name ≠ ".."
  slash : '/' ∉ name.toList

namespace ProperName

variable {name : String}

instance : Decidable (ProperName name) :=
  decidable_of_iff (name ≠ "" ∧ name ≠ "." ∧ name ≠ ".." ∧ '/' ∉ name.toList)
    ⟨fun parts => ⟨parts.1, parts.2.1, parts.2.2.1, parts.2.2.2⟩,
      fun proper => ⟨proper.nonempty, proper.current, proper.parent, proper.slash⟩⟩

theorem follow (proper : ProperName name) (location : Location) :
    location.follow name = location ++ [name] := by
  rw [Location.follow, if_neg (not_or.2 ⟨proper.nonempty, proper.current⟩),
    if_neg proper.parent]

theorem component (proper : ProperName name) :
    Path.laterComponent? name = some (.named name) := by
  rw [Path.laterComponent?, if_neg (not_or.2 ⟨proper.nonempty, proper.current⟩),
    if_neg proper.parent]

end ProperName

namespace Path

/-- Where a path leads in a volume that works at a location. -/
def location (workDir : Location) (path : Path) : Location :=
  path.segments.foldl Location.follow (if path.isAbsolute then [] else workDir)

/-! ## Parts of a spelling -/

theorem splitSlashes_eq (cs : List Char) : splitSlashes cs = cs.splitOn '/' := by
  induction cs with
  | nil => rfl
  | cons c rest ih =>
      rw [splitSlashes, ih, List.splitOn_cons_eq_if_modifyHead]
      have nonempty := List.splitOn_ne_nil '/' rest
      cases split : rest.splitOn '/' with
      | nil => exact absurd split nonempty
      | cons head others => simp only [beq_iff_eq, List.modifyHead_cons]

theorem segments_append (before after : String) :
    Path.segments ⟨before ++ "/" ++ after⟩ = Path.segments ⟨before⟩ ++ Path.segments ⟨after⟩ := by
  rw [segments, segments, segments, splitSlashes_eq, splitSlashes_eq, splitSlashes_eq,
    ← List.map_append, ← List.splitOn_append_cons_self]
  simp

theorem segments_of_slash {text : String} (slash : '/' ∉ text.toList) :
    Path.segments ⟨text⟩ = [text] := by
  rw [segments, splitSlashes_eq, List.splitOn_eq_singleton slash]
  simp

theorem segments_ne_nil (path : Path) : path.segments ≠ [] := by
  rw [segments, splitSlashes_eq]
  simp

theorem segments_intercalate {parts : List String} (nonempty : parts ≠ [])
    (slash : ∀ part ∈ parts, '/' ∉ part.toList) :
    Path.segments ⟨String.intercalate "/" parts⟩ = parts := by
  have slashes : ∀ cs ∈ parts.map String.toList, '/' ∉ cs := by
    simpa using slash
  have split := List.splitOn_intercalate '/' slashes (by simpa using nonempty)
  rw [segments, splitSlashes_eq, String.toList_intercalate]
  change ((['/'].intercalate (parts.map String.toList)).splitOn '/').map String.ofList = parts
  rw [split]
  simp

theorem slash_of_mem_splitSlashes {cs part : List Char} (member : part ∈ splitSlashes cs) :
    '/' ∉ part := by
  induction cs generalizing part with
  | nil =>
      rw [splitSlashes, List.mem_singleton] at member
      simp [member]
  | cons c rest ih =>
      rw [splitSlashes] at member
      split at member
      · rename_i split
        rw [splitSlashes_eq] at split
        exact absurd split (List.splitOn_ne_nil '/' rest)
      · rename_i head others split
        split at member
        · rcases List.mem_cons.1 member with rfl | member
          · exact List.not_mem_nil
          · exact ih (split ▸ member)
        · rename_i other
          rcases List.mem_cons.1 member with rfl | member
          · rw [List.mem_cons, not_or]
            exact ⟨fun same => other same.symm, ih (split ▸ List.mem_cons_self)⟩
          · exact ih (split ▸ List.mem_cons_of_mem _ member)

theorem slash_of_mem_segments {path : Path} {part : String} (member : part ∈ path.segments) :
    '/' ∉ part.toList := by
  obtain ⟨cs, inside, rfl⟩ := List.mem_map.1 member
  rw [String.toList_ofList]
  exact slash_of_mem_splitSlashes inside

/-- A path begins at the root if nothing stands before its first slash. -/
theorem isAbsolute_iff (path : Path) :
    path.isAbsolute = true ↔ path.text ≠ "" ∧ path.segments.head? = some "" := by
  rw [isAbsolute, segments, splitSlashes_eq, beq_iff_eq, ← String.toList_inj.ne, String.toList_empty]
  cases path.text.toList with
  | nil => simp
  | cons c rest =>
      rw [List.splitOn_cons_eq_if_modifyHead]
      by_cases slash : c = '/'
      · simp [slash]
      · have nonempty := List.splitOn_ne_nil '/' rest
        cases split : rest.splitOn '/' with
        | nil => exact absurd split nonempty
        | cons head others => simp [slash, ← String.toList_inj]

/-! ## Joining -/

/-- What a name is written behind when it is joined to a directory: its path, without a slash at
the end. -/
theorem join_text {base : Path} (nonempty : base.text ≠ "") :
    ∃ stem : String, (base.text = stem ∨ base.text = stem ++ "/") ∧
      ∀ name : String, '/' ∉ name.toList → base.join name = ⟨stem ++ "/" ++ name⟩ := by
  have relative : ∀ name : String, '/' ∉ name.toList → ¬Path.isAbsolute ⟨name⟩ := by
    intro name slash absolute
    rw [isAbsolute, beq_iff_eq] at absolute
    exact slash (List.mem_of_mem_head? absolute)
  cases isLast : base.text.toList.getLast? with
  | none =>
      exact absurd (String.toList_inj.1 (List.getLast?_eq_none_iff.1 isLast)) nonempty
  | some last =>
      by_cases isSlash : last = '/'
      · obtain ⟨stem, spelled⟩ := List.getLast?_eq_some_iff.1 isLast
        have text : base.text = String.ofList stem ++ "/" := by
          rw [← String.toList_inj, spelled, isSlash]
          simp
        refine ⟨String.ofList stem, .inr text, fun name slash => ?_⟩
        rw [join, if_neg (relative name slash), isLast]
        dsimp only
        rw [if_pos isSlash, text]
      · refine ⟨base.text, .inl rfl, fun name slash => ?_⟩
        rw [join, if_neg (relative name slash), isLast]
        exact if_neg isSlash

/-- The parts of a directory's path before a name that is joined to it. -/
theorem join_segments {base : Path} (nonempty : base.text ≠ "") {name : String}
    (slash : '/' ∉ name.toList) :
    ∃ before ≠ [], (base.join name).segments = before ++ [name] ∧
      (base.segments = before ∨ base.segments = before ++ [""]) := by
  obtain ⟨stem, spelled, joined⟩ := join_text nonempty
  refine ⟨Path.segments ⟨stem⟩, segments_ne_nil _, ?_, ?_⟩
  · rw [joined name slash, segments_append, segments_of_slash slash]
  · change Path.segments ⟨base.text⟩ = _ ∨ Path.segments ⟨base.text⟩ = _
    rcases spelled with same | same
    · rw [same]
      exact .inl rfl
    · rw [same, ← String.append_empty (s := stem ++ "/"), segments_append]
      exact .inr rfl

theorem foldl_follow_idle {part : String} (idle : part = "" ∨ part = ".") (start : Location)
    (parts : List String) :
    (parts ++ [part]).foldl Location.follow start = parts.foldl Location.follow start := by
  rw [List.foldl_append, List.foldl_cons, List.foldl_nil, Location.follow, if_pos idle]

theorem isAbsolute_congr {left right : Path} (nonempty : left.text ≠ "")
    (nonempty' : right.text ≠ "") (head : left.segments.head? = right.segments.head?) :
    left.isAbsolute = right.isAbsolute := by
  rw [Bool.eq_iff_iff, isAbsolute_iff, isAbsolute_iff, head]
  exact and_congr_left fun _ => iff_of_true nonempty nonempty'

theorem join_text_ne {base : Path} (nonempty : base.text ≠ "") {name : String}
    (slash : '/' ∉ name.toList) : (base.join name).text ≠ "" := by
  obtain ⟨stem, -, joined⟩ := join_text nonempty
  rw [joined name slash, ← String.toList_inj.ne]
  simp

theorem join_isAbsolute {base : Path} (nonempty : base.text ≠ "") {name : String}
    (slash : '/' ∉ name.toList) : (base.join name).isAbsolute = base.isAbsolute := by
  refine isAbsolute_congr (join_text_ne nonempty slash) nonempty ?_
  obtain ⟨before, some_, segments, isBefore | isBefore⟩ := join_segments nonempty slash
  · rw [segments, isBefore, List.head?_append_of_ne_nil _ some_]
  · rw [segments, isBefore, List.head?_append_of_ne_nil _ some_,
      List.head?_append_of_ne_nil _ some_]

/-- A joined name goes one part further. -/
theorem location_join (workDir : Location) {base : Path} (nonempty : base.text ≠ "")
    {name : String} (slash : '/' ∉ name.toList) :
    (base.join name).location workDir = (base.location workDir).follow name := by
  rw [location, location, join_isAbsolute nonempty slash]
  obtain ⟨before, -, segments, isBefore | isBefore⟩ := join_segments nonempty slash
  · rw [segments, isBefore, List.foldl_append]
    rfl
  · rw [segments, isBefore, List.foldl_append, foldl_follow_idle (.inl rfl)]
    rfl

/-! ## Last names -/

theorem eq_of_laterComponent? {part name : String}
    (isNamed : laterComponent? part = some (.named name)) : part = name := by
  rw [laterComponent?] at isNamed
  split at isNamed
  · cases isNamed
  · split at isNamed
    · cases isNamed
    · cases isNamed
      rfl

theorem eq_of_firstComponent? {part name : String}
    (isNamed : firstComponent? part = some (.named name)) : part = name := by
  rw [firstComponent?] at isNamed
  split at isNamed
  · cases isNamed
  · exact eq_of_laterComponent? isNamed

/-- A component that is a name is a part of the spelling. -/
theorem mem_segments_of_named {path : Path} {name : String}
    (member : PathComponent.named name ∈ path.components) : name ∈ path.segments := by
  have behind : ∀ {parts : List String},
      PathComponent.named name ∈ parts.filterMap laterComponent? → name ∈ parts := by
    intro parts member
    obtain ⟨part, isPart, isNamed⟩ := List.mem_filterMap.1 member
    exact eq_of_laterComponent? isNamed ▸ isPart
  rw [components] at member
  split at member
  · cases member
  · split at member
    · cases member
    · rename_i segments
      rcases List.mem_cons.1 member with same | member
      · cases same
      · exact segments ▸ List.mem_cons_of_mem _ (behind member)
    · rename_i segments
      rcases List.mem_append.1 member with member | member
      · rw [segments, ← eq_of_firstComponent? (Option.mem_toList.1 member)]
        exact List.mem_cons_self
      · exact segments ▸ List.mem_cons_of_mem _ (behind member)

theorem slash_fileName (path : Path) : '/' ∉ path.fileName.toList := by
  rw [fileName, fileName?]
  split
  · rename_i isLast
    exact slash_of_mem_segments (mem_segments_of_named (List.mem_of_getLast? isLast))
  · exact List.not_mem_nil

/-- The last component of a path that a name was joined to. -/
theorem join_getLast?_components {base : Path} (nonempty : base.text ≠ "") {name : String}
    (proper : ProperName name) : (base.join name).components.getLast? = some (.named name) := by
  obtain ⟨before, some_, segments, -⟩ := join_segments nonempty proper.slash
  rw [components, if_neg (join_text_ne nonempty proper.slash), segments]
  have later : ∀ rest : List String,
      (rest ++ [name]).filterMap laterComponent? =
        rest.filterMap laterComponent? ++ [PathComponent.named name] := by
    intro rest
    rw [List.filterMap_append]
    simp [proper.component]
  cases before with
  | nil => exact absurd rfl some_
  | cons first rest =>
      rw [List.cons_append]
      split
      · rename_i none_
        cases none_
      · rename_i shape
        cases shape
        rw [later, ← List.cons_append, List.getLast?_concat]
      · rename_i shape
        cases shape
        rw [later, ← List.append_assoc, List.getLast?_concat]

theorem fileName?_join {base : Path} (nonempty : base.text ≠ "") {name : String}
    (proper : ProperName name) : (base.join name).fileName? = some name := by
  rw [fileName?, join_getLast?_components nonempty proper]

/-! ## Replacing the last name -/

theorem dropIdle_suffix (parts : List String) : dropIdle parts <:+ parts := by
  induction parts with
  | nil => exact List.suffix_rfl
  | cons part rest ih =>
      cases rest with
      | nil => exact List.suffix_rfl
      | cons other rest =>
          rw [dropIdle]
          split
          · exact ih.trans (List.suffix_cons _ _)
          · exact List.suffix_rfl
          · nofun

theorem foldl_dropIdle (parts : List String) (start : Location) :
    (dropIdle parts).reverse.foldl Location.follow start =
      parts.reverse.foldl Location.follow start := by
  induction parts with
  | nil => rfl
  | cons part rest ih =>
      cases rest with
      | nil => rfl
      | cons other rest =>
          rw [dropIdle]
          split
          · rename_i idle
            rw [ih, List.reverse_cons (a := part), foldl_follow_idle idle]
          · rfl
          · nofun

theorem getLast?_dropIdle (parts : List String) :
    (dropIdle parts).getLast? = parts.getLast? := by
  induction parts with
  | nil => rfl
  | cons part rest ih =>
      cases rest with
      | nil => rfl
      | cons other rest =>
          rw [dropIdle]
          split
          · rw [ih, List.getLast?_cons_cons]
          · rfl
          · nofun

/-- The directory of a name that was joined, in another spelling. -/
structure Beside (base parent : Path) : Prop where
  nonempty : parent.text ≠ ""
  location : ∀ workDir, parent.location workDir = base.location workDir

/-- Parts of a directory's path spell that directory. -/
theorem beside_intercalate {base : Path} (nonempty : base.text ≠ "") {parts : List String}
    (some_ : parts ≠ []) (other : parts ≠ [""]) (slash : ∀ part ∈ parts, '/' ∉ part.toList)
    (head : parts.head? = base.segments.head?)
    (leads : ∀ start, parts.foldl Location.follow start =
      base.segments.foldl Location.follow start) :
    Beside base ⟨String.intercalate "/" parts⟩ := by
  have segments := segments_intercalate some_ slash
  have text : String.intercalate "/" parts ≠ "" := by
    intro empty
    rw [empty] at segments
    exact other segments.symm
  refine ⟨text, fun workDir => ?_⟩
  have absolute : Path.isAbsolute ⟨String.intercalate "/" parts⟩ = base.isAbsolute :=
    isAbsolute_congr text nonempty (by rw [segments, head])
  rw [Path.location, Path.location, segments, leads, absolute]

/-- What stands above a joined name is the directory it was joined to. -/
theorem parent?_join {base : Path} (nonempty : base.text ≠ "") {name : String}
    (proper : ProperName name) : ∃ parent, (base.join name).parent? = some parent ∧
      Beside base parent := by
  obtain ⟨before, some_, segments, isBefore⟩ := join_segments nonempty proper.slash
  have last : dropIdle (before ++ [name]).reverse = name :: before.reverse := by
    rw [List.reverse_append, List.reverse_singleton, List.singleton_append]
    cases before.reverse with
    | nil => rfl
    | cons _ _ =>
        rw [dropIdle, if_neg (not_or.2 ⟨proper.nonempty, proper.current⟩)]
        nofun
  have head : (dropIdle before.reverse).reverse.head? = base.segments.head? := by
    rw [List.head?_reverse, getLast?_dropIdle, List.getLast?_reverse]
    rcases isBefore with same | same
    · rw [same]
    · rw [same, List.head?_append_of_ne_nil _ some_]
  have leads : ∀ start, (dropIdle before.reverse).reverse.foldl Location.follow start =
      base.segments.foldl Location.follow start := by
    intro start
    rw [foldl_dropIdle, List.reverse_reverse]
    rcases isBefore with same | same
    · rw [same]
    · rw [same, foldl_follow_idle (.inl rfl)]
  have slash : ∀ part ∈ (dropIdle before.reverse).reverse, '/' ∉ part.toList := by
    intro part member
    have inside := (dropIdle_suffix _).mem (List.mem_reverse.1 member)
    exact slash_of_mem_segments
      (segments ▸ List.mem_append_left [name] (List.mem_reverse.1 inside))
  have kept : dropIdle before.reverse ≠ [] := by
    intro none_
    have isHead := getLast?_dropIdle before.reverse
    rw [none_, List.getLast?_reverse, List.getLast?_nil, eq_comm, List.head?_eq_none_iff] at isHead
    exact some_ isHead
  rw [parent?, join_getLast?_components nonempty proper]
  simp only [segments, last]
  split
  · rename_i none_
    exact absurd none_ kept
  · rename_i root
    rw [root] at head leads
    refine ⟨_, rfl, by decide, fun workDir => ?_⟩
    have absolute : base.isAbsolute = true := (isAbsolute_iff base).2 ⟨nonempty, head.symm⟩
    rw [Path.location, Path.location, absolute, if_pos rfl, ← leads]
    rfl
  · rename_i other
    refine ⟨_, rfl, beside_intercalate nonempty ?_ ?_ slash head leads⟩
    · exact List.reverse_ne_nil_iff.2 kept
    · intro single
      exact other (List.reverse_eq_iff.1 single)

/-- A name that replaces a joined one is joined to the same directory. -/
theorem withFileName_join {base : Path} (nonempty : base.text ≠ "") {name : String}
    (proper : ProperName name) (new : String) : ∃ parent, Beside base parent ∧
      (base.join name).withFileName new = parent.join new := by
  obtain ⟨parent, isParent, beside⟩ := parent?_join nonempty proper
  refine ⟨parent, beside, ?_⟩
  rw [withFileName, fileName?_join nonempty proper, isParent]

/-! ## Absolute steps -/

/-- The steps from the root to a location. -/
def stepsTo (location : Location) : List PathComponent :=
  .root :: location.map .named

/-- One component folded onto the absolute steps before it. -/
def fold (folded : List PathComponent) : PathComponent → List PathComponent
  | .current => folded
  | .parent => if folded.length ≤ 1 then folded else folded.dropLast
  | component => folded ++ [component]

theorem fold_named (location : Location) (name : String) :
    fold (stepsTo location) (.named name) = stepsTo (location ++ [name]) := by
  simp [fold, stepsTo]

theorem fold_parent (location : Location) :
    fold (stepsTo location) .parent = stepsTo location.dropLast := by
  cases location with
  | nil => rfl
  | cons name rest => simp [fold, stepsTo, List.map_dropLast, List.dropLast_cons_of_ne_nil]

/-- Folding a component does what following its part does. -/
theorem foldl_laterComponent? (location : Location) (part : String) :
    (laterComponent? part).toList.foldl fold (stepsTo location) =
      stepsTo (location.follow part) := by
  rw [laterComponent?, Location.follow]
  split
  · rfl
  · split
    · exact fold_parent location
    · exact fold_named location part

theorem foldl_firstComponent? (location : Location) (part : String) :
    (firstComponent? part).toList.foldl fold (stepsTo location) =
      stepsTo (location.follow part) := by
  rw [firstComponent?]
  split
  · rename_i isDot
    rw [isDot]
    rfl
  · exact foldl_laterComponent? location part

theorem foldl_fold (location : Location) (parts : List String) :
    (parts.filterMap laterComponent?).foldl fold (stepsTo location) =
      stepsTo (parts.foldl Location.follow location) := by
  induction parts generalizing location with
  | nil => rfl
  | cons part rest ih =>
      have split : (part :: rest).filterMap laterComponent? =
          (laterComponent? part).toList ++ rest.filterMap laterComponent? := by
        rw [List.filterMap_cons]
        cases laterComponent? part <;> rfl
      rw [split, List.foldl_append, foldl_laterComponent?, ih]
      rfl

theorem foldl_stepsTo (location : Location) :
    (stepsTo location).foldl fold [] = stepsTo location := by
  have named : ∀ (before after : Location),
      (after.map PathComponent.named).foldl fold (stepsTo before) = stepsTo (before ++ after) := by
    intro before after
    induction after generalizing before with
    | nil => rw [List.append_nil]; rfl
    | cons name rest ih =>
        rw [List.map_cons, List.foldl_cons, fold_named, ih, List.append_assoc]
        rfl
  exact named [] location

/-- The absolute steps of a path go to where it leads. -/
theorem normalized?_eq (workDir : Location) {path : Path} (nonempty : path.text ≠ "") :
    path.normalized? (stepsTo workDir) = some (stepsTo (path.location workDir)) := by
  have unfolded : path.normalized? (stepsTo workDir) =
      if path.text = "" then none
      else some ((if path.isAbsolute then path.components
        else stepsTo workDir ++ path.components).foldl fold []) := rfl
  rw [unfolded, if_neg nonempty, location, components, if_neg nonempty]
  congr 1
  by_cases absolute : path.isAbsolute = true
  · rw [if_pos absolute, if_pos absolute]
    obtain ⟨rest, segments⟩ := List.head?_eq_some_iff.1 ((isAbsolute_iff path).1 absolute).2
    rw [segments]
    exact foldl_fold [] rest
  · rw [if_neg absolute, if_neg absolute]
    split
    · rename_i none_
      exact absurd none_ (segments_ne_nil path)
    · rename_i segments
      exact absurd ((isAbsolute_iff path).2 ⟨nonempty, by rw [segments, List.head?_cons]⟩) absolute
    · rename_i segments
      rw [segments, List.foldl_append, foldl_stepsTo, List.foldl_append, foldl_firstComponent?,
        foldl_fold]
      rfl

/-- The paths above a path begin with the path itself, which stands alone if it has no parent. -/
theorem ancestors_eq (path : Path) :
    ∃ outer, path.ancestors = path :: outer ∧ (path.parent? = none → outer = []) := by
  rw [ancestors]
  cases path.components.length with
  | zero => exact ⟨[], rfl, fun _ => rfl⟩
  | succ steps =>
      rw [ancestors.climb]
      cases path.parent? with
      | none => exact ⟨[], rfl, fun _ => rfl⟩
      | some parent => exact ⟨_, rfl, nofun⟩

end Path

end GoMend
