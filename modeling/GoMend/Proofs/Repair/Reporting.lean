import GoMend.Proofs.Volume.Path
import GoMend.Repair.Diagnostic

/-!
# Paths in reports

A report that is read back may name another path than it was written for: the path ends before
the first colon with a digit behind it.  If the path of the directory holds none, the report still
names a path of that directory.
-/

namespace GoMend

/-- No colon of the spelling has a digit behind it. -/
def Path.Unnumbered (path : Path) : Prop :=
  ∀ before digit after, path.text.toList = before ++ ':' :: digit :: after → digit.isDigit = false

theorem Path.unnumbered_of_notMem {path : Path} (colonless : ':' ∉ path.text.toList) :
    path.Unnumbered := by
  intro before digit after split
  rw [split] at colonless
  exact absurd (List.mem_append_right _ List.mem_cons_self) colonless

namespace Diagnostic

variable {cs before digits behind : List Char}

theorem positionGroup?_found {c : Char}
    (found : c = ':' ∧ cs.takeWhile Text.isDecimalDigit ≠ []) :
    positionGroup? (c :: cs) =
      some ([], cs.takeWhile Text.isDecimalDigit, cs.dropWhile Text.isDecimalDigit) := by
  rw [positionGroup?]
  exact if_pos found

theorem positionGroup?_skip {c : Char} (other : ¬(c = ':' ∧ cs.takeWhile Text.isDecimalDigit ≠ [])) :
    positionGroup? (c :: cs) =
      (positionGroup? cs).map fun (before, digits, behind) => (c :: before, digits, behind) := by
  rw [positionGroup?]
  exact if_neg other

/-- The first position of a text stands no later than one that is known. -/
theorem positionGroup?_prefix {name rest : List Char} {digit : Char}
    (isDigit : Text.isDecimalDigit digit = true)
    (group : positionGroup? (name ++ ':' :: digit :: rest) = some (before, digits, behind)) :
    before <+: name := by
  induction name generalizing before with
  | nil =>
      have found : ':' = ':' ∧ (digit :: rest).takeWhile Text.isDecimalDigit ≠ [] := by
        rw [List.takeWhile_cons, if_pos isDigit]
        exact ⟨rfl, List.cons_ne_nil _ _⟩
      rw [List.nil_append, positionGroup?_found found] at group
      cases group
      exact List.nil_prefix
  | cons c name ih =>
      rw [List.cons_append, positionGroup?] at group
      dsimp only at group
      split at group
      · cases group
        exact List.nil_prefix
      · obtain ⟨⟨inner, _, _⟩, inside, same⟩ := Option.map_eq_some_iff.1 group
        cases same
        exact (List.prefix_cons_inj c).2 (ih inside)

theorem isDigit_of_coordinate? (readable : (coordinate? digits).isSome) {digit : Char}
    (member : digit ∈ digits) : digit.isDigit = true := by
  rw [coordinate?] at readable
  split at readable
  · rename_i all
    have ascii := List.all_eq_true.1 all digit member
    simpa [Char.isDigit, Char.le_def] using ascii
  · cases readable

/-- A position whose digits can be read stands behind a text that holds none. -/
theorem positionGroup?_behind {stem rest : List Char}
    (unnumbered : ∀ before digit after, stem = before ++ ':' :: digit :: after →
      digit.isDigit = false)
    (group : positionGroup? (stem ++ '/' :: rest) = some (before, digits, behind))
    (readable : (coordinate? digits).isSome) :
    ∃ inner, before = stem ++ '/' :: inner ∧ positionGroup? rest = some (inner, digits, behind) := by
  induction stem generalizing before with
  | nil =>
      rw [List.nil_append, positionGroup?_skip fun found => absurd found.1 (by decide)] at group
      obtain ⟨⟨inner, _, _⟩, inside, same⟩ := Option.map_eq_some_iff.1 group
      cases same
      exact ⟨inner, rfl, inside⟩
  | cons c stem ih =>
      by_cases found : c = ':' ∧ (stem ++ '/' :: rest).takeWhile Text.isDecimalDigit ≠ []
      · obtain ⟨rfl, some_⟩ := found
        rw [List.cons_append, positionGroup?_found ⟨rfl, some_⟩] at group
        cases group
        cases stem with
        | nil => exact absurd (List.takeWhile_cons_of_neg (by decide)) some_
        | cons digit stem =>
            -- the position would begin at a digit that the stem holds behind its colon
            have inside : digit ∈
                (digit :: stem ++ '/' :: rest).takeWhile Text.isDecimalDigit := by
              rw [List.cons_append, List.takeWhile_cons] at some_ ⊢
              split at some_
              · rename_i isDigit
                rw [if_pos isDigit]
                exact List.mem_cons_self
              · exact absurd rfl some_
            have isDigit := isDigit_of_coordinate? readable inside
            rw [unnumbered [] digit stem rfl] at isDigit
            cases isDigit
      · rw [List.cons_append, positionGroup?_skip found] at group
        obtain ⟨⟨inner, _, _⟩, inside, same⟩ := Option.map_eq_some_iff.1 group
        cases same
        obtain ⟨part, rfl, behind_⟩ := ih (fun before digit after split =>
          unnumbered (c :: before) digit after (congrArg (c :: ·) split)) inside
        exact ⟨part, rfl, behind_⟩

theorem isDecimalDigit_of_isDigit {c : Char} (isDigit : c.isDigit = true) :
    Text.isDecimalDigit c = true := by
  have bounds : 48 ≤ c.toNat ∧ c.toNat ≤ 57 := by
    simpa [Char.isDigit, UInt32.le_iff_toNat_le] using isDigit
  rw [Text.isDecimalDigit, Text.decimalDigitRanges, Text.Ranges.contains,
    if_neg (Nat.not_lt.2 bounds.1), decide_eq_true bounds.2, Bool.true_or]

/-- A written position begins with a digit. -/
theorem exists_digit_render (position : Position) : ∃ digit rest,
    Text.isDecimalDigit digit = true ∧ position.render.toList = digit :: rest := by
  have some_ := Nat.toDigits_ne_nil (n := position.line) (b := 10)
  cases digits : Nat.toDigits 10 position.line with
  | nil => exact absurd digits some_
  | cons digit rest =>
      have isDigit : digit.isDigit = true := by
        refine Nat.isDigit_of_mem_toDigits (b := 10) (n := position.line) (by decide) (by decide) ?_
        rw [digits]
        exact List.mem_cons_self
      have written : position.render =
          Nat.repr position.line ++ ":" ++ Nat.repr position.column := rfl
      refine ⟨digit, rest ++ ':' :: (Nat.repr position.column).toList,
        isDecimalDigit_of_isDigit isDigit, ?_⟩
      rw [written, String.toList_append, String.toList_append, Nat.toList_repr, digits]
      simp

/-- The report about a file of a directory is read back as one about a file of that directory. -/
theorem parse_render_join {dir : Path} (nonempty : dir.text ≠ "") (unnumbered : dir.Unnumbered)
    {name : String} (slash : '/' ∉ name.toList) {report read : Diagnostic}
    (about : report.path = dir.join name) (parsed : parse report.render = .ok read) :
    ∃ part : String, '/' ∉ part.toList ∧ read.path = dir.join part := by
  obtain ⟨stem, spelled, joined⟩ := Path.join_text nonempty
  obtain ⟨digit, rest, isDigit, position⟩ := exists_digit_render report.position
  have text : report.render.toList = stem.toList ++ '/' :: (name.toList ++ ':' :: digit :: (rest ++
      (": " ++ report.message).toList)) := by
    rw [render, about, joined name slash, Wording.atPosition]
    simp [position]
  have stemUnnumbered : ∀ before digit after, stem.toList = before ++ ':' :: digit :: after →
      digit.isDigit = false := by
    intro before digit after split
    rcases spelled with same | same
    · exact unnumbered before digit after (by rw [same, split])
    · exact unnumbered before digit (after ++ ['/']) (by rw [same, String.toList_append, split]; simp)
  rw [parse] at parsed
  split at parsed
  · rename_i isRead
    cases parsed
    rw [ofText?] at isRead
    obtain ⟨⟨path, lineDigits, behind⟩, first, isRead⟩ := Option.bind_eq_some_iff.1 isRead
    obtain ⟨⟨_, columnDigits, _⟩, -, isRead⟩ := Option.bind_eq_some_iff.1 isRead
    obtain ⟨line, isLine, isRead⟩ := Option.bind_eq_some_iff.1 isRead
    obtain ⟨column, -, isRead⟩ := Option.bind_eq_some_iff.1 isRead
    cases isRead
    rw [text] at first
    obtain ⟨inner, rfl, within⟩ := positionGroup?_behind stemUnnumbered first (by rw [isLine]; rfl)
    have isPrefix := positionGroup?_prefix isDigit within
    have slash' : '/' ∉ (String.ofList inner).toList := by
      rw [String.toList_ofList]
      exact fun member => slash (isPrefix.subset member)
    refine ⟨String.ofList inner, slash', ?_⟩
    have same : String.ofList (stem.toList ++ '/' :: inner) =
        stem ++ "/" ++ String.ofList inner := by
      rw [← String.toList_inj]
      simp
    rw [joined _ slash', ← same]
  · cases parsed

end Diagnostic

end GoMend
