import GoMend.Proofs.Repair.Reporting
import GoMend.Proofs.Text.Trimming
import GoMend.Token.Shape

/-!
# Reports that are read back

A diagnostic is read back from its written form exactly if its path holds no colon with a decimal
digit behind it and its message is trimmed.  What was read once can be written and read again.
-/

namespace GoMend

/-- A colon with a decimal digit of any script behind it. -/
def Path.HoldsGroup (path : Path) : Prop :=
  ∃ before digit after, path.text.toList = before ++ ':' :: digit :: after ∧
    Text.isDecimalDigit digit = true

theorem Text.isDecimalDigit_colon : isDecimalDigit ':' = false := by
  decide +kernel

namespace Diagnostic

/-! ## Groups of a colon and digits -/

variable {cs before digits behind rest : List Char} {digit c : Char}

/-- Whether no colon of a text has a decimal digit behind it. -/
def Groupless (cs : List Char) : Prop :=
  ∀ before digit after, cs = before ++ ':' :: digit :: after → Text.isDecimalDigit digit = false

theorem groupless_nil : Groupless [] := by
  simp [Groupless]

theorem Groupless.tail (groupless : Groupless (c :: cs)) : Groupless cs :=
  fun before digit after split => groupless (c :: before) digit after (congrArg (c :: ·) split)

theorem not_holdsGroup_iff {path : Path} : ¬path.HoldsGroup ↔ Groupless path.text.toList := by
  constructor
  · intro none_ before digit after split
    exact Bool.eq_false_iff.2 fun isDigit => none_ ⟨before, digit, after, split, isDigit⟩
  · rintro groupless ⟨before, digit, after, split, isDigit⟩
    rw [groupless before digit after split] at isDigit
    cases isDigit

/-- What begins with a colon and a digit begins with a group. -/
theorem begins_iff : cs.takeWhile Text.isDecimalDigit ≠ [] ↔
    ∃ digit after, cs = digit :: after ∧ Text.isDecimalDigit digit = true := by
  cases cs with
  | nil => simp
  | cons c cs =>
      rw [List.takeWhile_cons]
      cases isDigit : Text.isDecimalDigit c <;> simp [isDigit]

/-- A text without groups stays one behind a character at which none begins, whatever follows. -/
theorem Groupless.cons (groupless : Groupless cs)
    (other : ¬(c = ':' ∧ (cs ++ rest).takeWhile Text.isDecimalDigit ≠ [])) :
    Groupless (c :: cs) := by
  intro before digit after split
  cases before with
  | nil =>
      obtain ⟨rfl, rfl⟩ := List.cons.inj split
      exact Bool.eq_false_iff.2 fun isDigit =>
        other ⟨rfl, begins_iff.2 ⟨_, _, List.cons_append, isDigit⟩⟩
  | cons first before => exact groupless before digit after (List.cons.inj split).2

/-- The parts around the first group, of which the one before it holds none. -/
theorem positionGroup?_eq_some (group : positionGroup? cs = some (before, digits, behind)) :
    cs = before ++ ':' :: (digits ++ behind) ∧ Groupless before ∧
      ∃ digit others, digits = digit :: others ∧ Text.isDecimalDigit digit = true := by
  induction cs generalizing before with
  | nil => cases group
  | cons c cs ih =>
      by_cases found : c = ':' ∧ cs.takeWhile Text.isDecimalDigit ≠ []
      · rw [positionGroup?_found found] at group
        cases group
        refine ⟨?_, groupless_nil, ?_⟩
        · rw [found.1, List.takeWhile_append_dropWhile, List.nil_append]
        · obtain ⟨digit, after, rfl, isDigit⟩ := begins_iff.1 found.2
          exact ⟨digit, _, List.takeWhile_cons_of_pos isDigit, isDigit⟩
      · rw [positionGroup?_skip found] at group
        obtain ⟨⟨inner, _, _⟩, inside, same⟩ := Option.map_eq_some_iff.1 group
        cases same
        obtain ⟨whole, groupless, areDigits⟩ := ih inside
        exact ⟨by rw [whole, List.cons_append], groupless.cons (whole ▸ found), areDigits⟩

/-- A text without groups is one in which none is found. -/
theorem positionGroup?_eq_none_iff : positionGroup? cs = none ↔ Groupless cs := by
  constructor
  · intro none_
    induction cs with
    | nil => exact groupless_nil
    | cons c cs ih =>
        by_cases found : c = ':' ∧ cs.takeWhile Text.isDecimalDigit ≠ []
        · rw [positionGroup?_found found] at none_
          cases none_
        · rw [positionGroup?_skip found, Option.map_eq_none_iff] at none_
          rw [← List.append_nil cs] at found
          exact (ih none_).cons found
  · intro groupless
    cases group : positionGroup? cs with
    | none => rfl
    | some parts =>
        obtain ⟨before, digits, behind⟩ := parts
        obtain ⟨whole, -, digit, others, rfl, isDigit⟩ := positionGroup?_eq_some group
        rw [groupless before digit _ whole] at isDigit
        cases isDigit

instance (path : Path) : Decidable path.HoldsGroup :=
  decidable_of_iff (¬positionGroup? path.text.toList = none) (by
    rw [positionGroup?_eq_none_iff, ← not_holdsGroup_iff, Classical.not_not])

/-- A group is found behind a text that holds none. -/
theorem positionGroup?_append (groupless : Groupless before) (some_ : digits ≠ [])
    (areDigits : ∀ digit ∈ digits, Text.isDecimalDigit digit = true)
    (ended : ∀ c ∈ behind.head?, Text.isDecimalDigit c = false) :
    positionGroup? (before ++ ':' :: (digits ++ behind)) = some (before, digits, behind) := by
  have taken : behind.takeWhile Text.isDecimalDigit = [] := by
    cases behind with
    | nil => rfl
    | cons c behind => exact List.takeWhile_cons_of_neg (by simp [ended c rfl])
  induction before with
  | nil =>
      have all : (digits ++ behind).takeWhile Text.isDecimalDigit = digits := by
        rw [List.takeWhile_append_of_pos areDigits, taken, List.append_nil]
      rw [List.nil_append, positionGroup?_found ⟨rfl, by rwa [all]⟩, all,
        List.dropWhile_append_of_pos areDigits, Text.dropWhile_eq_self.2 ended]
  | cons c before ih =>
      rw [List.cons_append, positionGroup?_skip, ih groupless.tail, Option.map_some]
      rintro ⟨rfl, begins⟩
      obtain ⟨digit, after, split, isDigit⟩ := begins_iff.1 begins
      cases before with
      | nil =>
          obtain ⟨rfl, -⟩ := List.cons.inj split
          simp [Text.isDecimalDigit_colon] at isDigit
      | cons first before =>
          obtain ⟨rfl, -⟩ := List.cons.inj split
          rw [groupless [] first before rfl] at isDigit
          cases isDigit

/-- The first group ends before a colon that it does not begin with. -/
theorem suffix_dropWhile (stem rest : List Char) :
    ':' :: rest <:+ (stem ++ ':' :: rest).dropWhile Text.isDecimalDigit := by
  have stops : (':' :: rest).dropWhile Text.isDecimalDigit = ':' :: rest :=
    List.dropWhile_cons_of_neg (by simp [Text.isDecimalDigit_colon])
  rw [List.dropWhile_append]
  split
  · exact stops ▸ List.suffix_refl _
  · exact List.suffix_append _ _

/-- A text with a group holds the first one, so what follows the text stands behind it. -/
theorem suffix_of_not_groupless {stem : List Char} (holds : ¬Groupless stem)
    (group : positionGroup? (stem ++ ':' :: rest) = some (before, digits, behind)) :
    ':' :: rest <:+ behind := by
  induction stem generalizing before with
  | nil => exact absurd groupless_nil holds
  | cons c stem ih =>
      by_cases found : c = ':' ∧ (stem ++ ':' :: rest).takeWhile Text.isDecimalDigit ≠ []
      · rw [List.cons_append, positionGroup?_found found] at group
        cases group
        exact suffix_dropWhile stem rest
      · rw [List.cons_append, positionGroup?_skip found] at group
        obtain ⟨⟨inner, _, _⟩, inside, same⟩ := Option.map_eq_some_iff.1 group
        cases same
        exact ih (fun groupless => holds (groupless.cons found)) inside

/-- Behind the first group stands what follows a group that is known. -/
theorem suffix_of_group {stem known : List Char} (some_ : known ≠ [])
    (areDigits : ∀ digit ∈ known, Text.isDecimalDigit digit = true)
    (ended : ∀ c ∈ rest.head?, Text.isDecimalDigit c = false)
    (group : positionGroup? (stem ++ ':' :: (known ++ rest)) = some (before, digits, behind)) :
    rest <:+ behind := by
  by_cases groupless : Groupless stem
  · rw [positionGroup?_append groupless some_ areDigits ended] at group
    cases group
    exact List.suffix_refl _
  · exact ((List.suffix_append known rest).trans (List.suffix_cons ':' _)).trans
      (suffix_of_not_groupless groupless group)

/-! ## Lines and columns -/

theorem coordinate?_le {value : Nat} (isRead : coordinate? digits = some value) :
    value ≤ maxCoordinate := by
  rw [coordinate?] at isRead
  split at isRead
  · dsimp only at isRead
    split at isRead
    · cases isRead
      assumption
    · cases isRead
  · cases isRead

/-- A number within the range is read from its digits. -/
theorem coordinate?_toDigits {value : Nat} (inRange : value ≤ maxCoordinate) :
    coordinate? (Nat.toDigits 10 value) = some value := by
  have ascii : (Nat.toDigits 10 value).all (fun c => '0' ≤ c && c ≤ '9') = true := by
    refine List.all_eq_true.2 fun c member => ?_
    have isDigit := Nat.isDigit_of_mem_toDigits (by decide) (by decide) member
    simpa [Char.isDigit, Char.le_def] using isDigit
  have number : (Nat.toDigits 10 value).foldl
      (fun value c => value * 10 + (c.toNat - '0'.toNat)) 0 = value := by
    simp only [Nat.mul_comm _ 10]
    exact Nat.ofDigitChars_toDigits (by decide) (by decide)
  rw [coordinate?, if_pos ascii]
  dsimp only
  rw [number, if_pos inRange]

/-! ## Written diagnostics -/

variable {diagnostic read : Diagnostic} {text : String}

/-- Line and column are in the range of coordinates. -/
def InRange (diagnostic : Diagnostic) : Prop :=
  diagnostic.position.line ≤ maxCoordinate ∧ diagnostic.position.column ≤ maxCoordinate

theorem parse_eq_ok : parse text = .ok read ↔ ofText? text = some read := by
  rw [parse]
  cases ofText? text <;> simp

/-- What is read stands around and behind the first two groups. -/
theorem ofText?_eq_some (isRead : ofText? text = some read) :
    ∃ path line rest skipped column behind,
      positionGroup? text.toList = some (path, line, rest) ∧
        positionGroup? rest = some (skipped, column, behind) ∧
        coordinate? line = some read.position.line ∧
        coordinate? column = some read.position.column ∧
        read.path = ⟨String.ofList path⟩ ∧
        read.message = Text.trim (String.ofList (behind.dropWhile (· == ':'))) := by
  rw [ofText?] at isRead
  obtain ⟨⟨path, line, rest⟩, first, isRead⟩ := Option.bind_eq_some_iff.1 isRead
  obtain ⟨⟨skipped, column, behind⟩, second, isRead⟩ := Option.bind_eq_some_iff.1 isRead
  obtain ⟨lineNumber, isLine, isRead⟩ := Option.bind_eq_some_iff.1 isRead
  obtain ⟨columnNumber, isColumn, isRead⟩ := Option.bind_eq_some_iff.1 isRead
  cases isRead
  exact ⟨path, line, rest, skipped, column, behind, first, second, isLine, isColumn, rfl, rfl⟩

theorem toList_render (diagnostic : Diagnostic) :
    diagnostic.render.toList = diagnostic.path.text.toList ++
      ':' :: (Nat.toDigits 10 diagnostic.position.line ++
        ':' :: (Nat.toDigits 10 diagnostic.position.column ++
          ':' :: ' ' :: diagnostic.message.toList)) := by
  have written : diagnostic.render = diagnostic.path.text ++ ":" ++
      (Nat.repr diagnostic.position.line ++ ":" ++ Nat.repr diagnostic.position.column) ++ ": " ++
      diagnostic.message := rfl
  rw [written]
  simp [Nat.toList_repr]

theorem isDecimalDigit_of_mem_toDigits (value : Nat) :
    ∀ digit ∈ Nat.toDigits 10 value, Text.isDecimalDigit digit = true :=
  fun _ member => isDecimalDigit_of_isDigit
    (Nat.isDigit_of_mem_toDigits (by decide) (by decide) member)

/-- Only what surrounds the message is lost if the path holds no group. -/
theorem parse_render (inRange : diagnostic.InRange)
    (groupless : Groupless diagnostic.path.text.toList) :
    parse diagnostic.render =
      .ok { diagnostic with message := Text.trim diagnostic.message } := by
  have colon : ∀ rest : List Char, ∀ c ∈ (':' :: rest).head?, Text.isDecimalDigit c = false := by
    rintro rest c ⟨⟩
    exact Text.isDecimalDigit_colon
  have first := positionGroup?_append groupless Nat.toDigits_ne_nil
    (isDecimalDigit_of_mem_toDigits diagnostic.position.line)
    (colon (Nat.toDigits 10 diagnostic.position.column ++ ':' :: ' ' :: diagnostic.message.toList))
  have second := positionGroup?_append groupless_nil Nat.toDigits_ne_nil
    (isDecimalDigit_of_mem_toDigits diagnostic.position.column)
    (colon (' ' :: diagnostic.message.toList))
  have message : Text.trim (String.ofList ((':' :: ' ' :: diagnostic.message.toList).dropWhile
      (· == ':'))) = Text.trim diagnostic.message := by
    have blank : ∀ c ∈ [' '], Text.isBlank c = true := List.forall_mem_singleton.2 (by decide)
    have around : Text.trimBy Text.isBlank
        (String.ofList ([' '] ++ (diagnostic.message.toList ++ []))) = _ :=
      Text.trimBy_surrounded blank (List.forall_mem_nil _)
    simpa [Text.trim] using around
  rw [parse_eq_ok, ofText?, toList_render, first]
  simp only [Option.bind_eq_bind, Option.bind_some]
  rw [List.nil_append] at second
  simp only [second, Option.bind_some, coordinate?_toDigits inRange.1,
    coordinate?_toDigits inRange.2, message, String.ofList_toList]
  rfl

/-- White space stands in no name. -/
theorem isBlank_of_isNamePart (part : Token.isNamePart c = true) : Text.isBlank c = false := by
  have blanks : Text.blankRanges.all (fun range => (List.range (range.2 - range.1 + 1)).all
      fun more => !Token.isNamePart (Char.ofNat (range.1 + more))) = true := by
    decide +kernel
  have ascending : Text.blankRanges.Ascending := by
    simp [Text.blankRanges, Text.Ranges.Ascending]
  refine Bool.eq_false_iff.2 fun isBlank => ?_
  obtain ⟨range, listed, least, most⟩ := (Text.Ranges.contains_iff ascending c.toNat).1 isBlank
  have outside := List.all_eq_true.1 (List.all_eq_true.1 blanks range listed)
    (c.toNat - range.1) (List.mem_range.2 (by omega))
  rw [Nat.add_sub_cancel' least, Char.ofNat_toNat, part] at outside
  cases outside

/-- A trimmed message is not what is left of a text that ends in it, behind a character that is
kept. -/
theorem trim_ne {front back : List Char} {message : String} (kept : Text.isBlank c = false) :
    Text.trim (String.ofList (front ++ c :: (back ++ message.toList))) ≠ message := by
  intro same
  have trimmed : Text.Trimmed Text.isBlank message := same ▸ Text.trimmed_trimBy _ _
  have whole : message.toList.reverse.dropWhile Text.isBlank = message.toList.reverse :=
    Text.dropWhile_eq_self.2 (by rw [List.head?_reverse]; exact trimmed.last)
  have long : message.toList.length ≤
      ((back ++ message.toList).reverse.dropWhile Text.isBlank).length := by
    rw [List.reverse_append, List.dropWhile_append, whole]
    split
    · rename_i empty
      rw [List.reverse_eq_nil_iff.1 (List.isEmpty_iff.1 empty)]
      exact Nat.zero_le _
    · simp
  rw [Text.trim, Text.trimBy_of_kept kept, ← String.toList_inj, String.toList_ofList] at same
  have lengths := congrArg List.length same
  rw [List.length_append, List.length_cons, List.length_reverse] at lengths
  omega

/-- If the path holds a group, the column becomes a part of the message. -/
theorem message_ne (holds : ¬Groupless diagnostic.path.text.toList)
    (isRead : parse diagnostic.render = .ok read) : read.message ≠ diagnostic.message := by
  obtain ⟨path, line, rest, skipped, column, behind, first, second, _, _, _, message⟩ :=
    ofText?_eq_some (parse_eq_ok.1 isRead)
  rw [toList_render] at first
  obtain ⟨stem, rfl⟩ := suffix_of_not_groupless holds first
  obtain ⟨front, rfl⟩ := suffix_of_group Nat.toDigits_ne_nil
    (isDecimalDigit_of_mem_toDigits _)
    (by rintro c ⟨⟩; exact Text.isDecimalDigit_colon) second
  have digits := isDecimalDigit_of_mem_toDigits diagnostic.position.column
  cases written : Nat.toDigits 10 diagnostic.position.column with
  | nil => exact absurd written Nat.toDigits_ne_nil
  | cons digit others =>
      have isDigit := digits digit (by simp [written])
      have noColon : ¬(digit == ':') = true := by
        rintro isColon
        simp [beq_iff_eq.1 isColon, Text.isDecimalDigit_colon] at isDigit
      have kept : Text.isBlank digit = false :=
        isBlank_of_isNamePart (by simp [Token.isNamePart, isDigit])
      -- whatever colons are taken away in front, the digits of the column stay
      have stays : ∃ stem, (front ++ ':' :: (digit :: others ++ ':' :: ' ' ::
          diagnostic.message.toList)).dropWhile (· == ':') =
            stem ++ digit :: (others ++ [':', ' '] ++ diagnostic.message.toList) := by
        rw [List.dropWhile_append]
        split
        · exact ⟨[], by simp [noColon]⟩
        · exact ⟨front.dropWhile (· == ':') ++ [':'], by simp⟩
      obtain ⟨stem, stays⟩ := stays
      rw [message, written, stays]
      exact trim_ne kept

/-- A diagnostic is read back exactly if its path holds no group and its message is trimmed. -/
theorem parse_render_eq_iff (inRange : diagnostic.InRange) :
    parse diagnostic.render = .ok diagnostic ↔
      ¬diagnostic.path.HoldsGroup ∧ Text.Trimmed Text.isBlank diagnostic.message := by
  rw [not_holdsGroup_iff, ← Text.trimBy_eq_self_iff]
  constructor
  · intro isRead
    have groupless : Groupless diagnostic.path.text.toList := by
      by_contra holds
      exact message_ne holds isRead rfl
    rw [parse_render inRange groupless, Except.ok.injEq] at isRead
    exact ⟨groupless, congrArg message isRead⟩
  · rintro ⟨groupless, trimmed⟩
    rw [parse_render inRange groupless, Text.trim, trimmed]

/-- It does not matter that a path may be spelled in another way: without these conditions not even
the message is read back. -/
theorem exists_message_eq_iff (inRange : diagnostic.InRange) :
    (∃ read, parse diagnostic.render = .ok read ∧ read.message = diagnostic.message) ↔
      ¬diagnostic.path.HoldsGroup ∧ Text.Trimmed Text.isBlank diagnostic.message := by
  constructor
  · rintro ⟨read, isRead, message⟩
    have groupless : Groupless diagnostic.path.text.toList := by
      by_contra holds
      exact message_ne holds isRead message
    rw [parse_render inRange groupless, Except.ok.injEq] at isRead
    exact ⟨not_holdsGroup_iff.2 groupless,
      message ▸ isRead ▸ Text.trimmed_trimBy Text.isBlank diagnostic.message⟩
  · intro conditions
    exact ⟨diagnostic, (parse_render_eq_iff inRange).2 conditions, rfl⟩

/-- What was read from a text is read again once it is written. -/
theorem parse_render_of_parse (isRead : parse text = .ok read) : parse read.render = .ok read := by
  obtain ⟨path, line, rest, skipped, column, behind, first, second, isLine, isColumn, isPath,
    message⟩ := ofText?_eq_some (parse_eq_ok.1 isRead)
  have inRange : read.InRange := ⟨coordinate?_le isLine, coordinate?_le isColumn⟩
  refine (parse_render_eq_iff inRange).2 ⟨?_, message ▸ Text.trimmed_trimBy _ _⟩
  rw [not_holdsGroup_iff, isPath, String.toList_ofList]
  exact (positionGroup?_eq_some first).2.1

end Diagnostic

end GoMend
