import GoMend.Proofs.Token.Lines
import GoMend.Syntax.Build

/-!
# Names that are built and names that are read

The builders admit a name by the identifier characters of the Unicode standard, the scanner by
letters and decimal digits.  Neither set of characters contains the other, so a name that the
builders admit need not be read as one name.  This module tells exactly which names are read as one
name, and for which of them both sides agree.
-/

namespace GoMend

open Text (Ranges isLetter isDecimalDigit isWordChar isIdentifierStart isIdentifierContinue
  identifierStartExtra identifierStartMissing identifierContinueExtra identifierContinueMissing
  decimalDigitRanges)

namespace Text.Ranges

/-- No range of the one list meets a range of the other. -/
def Apart (left right : Ranges) : Prop :=
  ∀ range ∈ left, right.meets range.1 range.2 = false

instance (left right : Ranges) : Decidable (Apart left right) :=
  inferInstanceAs (Decidable (∀ range ∈ left, right.meets range.1 range.2 = false))

/-- A member lies in one of the ranges. -/
theorem exists_of_contains {ranges : Ranges} {code : Nat} (member : ranges.contains code = true) :
    ∃ range ∈ ranges, range.1 ≤ code ∧ code ≤ range.2 := by
  induction ranges with
  | nil => cases member
  | cons range rest ih =>
      rw [contains] at member
      split at member
      · cases member
      · rename_i reached
        rcases Bool.or_eq_true_iff.1 member with small | later
        · exact ⟨range, List.mem_cons_self, Nat.le_of_not_lt reached, of_decide_eq_true small⟩
        · obtain ⟨found, listed, bounds⟩ := ih later
          exact ⟨found, List.mem_cons_of_mem _ listed, bounds⟩

/-- Nothing is a member of two lists that lie apart. -/
theorem Apart.not_contains {left right : Ranges} {code : Nat} (apart : left.Apart right)
    (member : left.contains code = true) : right.contains code = false := by
  by_contra other
  rw [Bool.not_eq_false] at other
  obtain ⟨range, listed, bounds⟩ := exists_of_contains member
  obtain ⟨second, alsoListed, alsoBounds⟩ := exists_of_contains other
  have met : right.meets range.1 range.2 = true := by
    apply List.any_eq_true.2
    exact ⟨second, alsoListed, by simp; omega⟩
  rw [apart range listed] at met
  cases met

end Text.Ranges

namespace Token

/-! ## Single characters -/

section

variable {c : Char}

/-- Of the parts of names, those that may not begin one are the digits. -/
theorem isNameStart_of_isIdentifierStart (start : isIdentifierStart c = true)
    (part : isNamePart c = true) : isNameStart c = true := by
  have apart : identifierStartExtra.Apart decimalDigitRanges := by decide
  rw [isIdentifierStart, Bool.or_eq_true, Bool.and_eq_true] at start
  rcases start with plain | extra
  · rw [isNameStart, plain.1, Bool.true_or]
  · have noDigit : isDecimalDigit c = false := apart.not_contains extra
    rw [isNamePart, noDigit, Bool.or_false] at part
    exact part

/-- A character that begins names may begin an identifier unless it is barred from that. -/
theorem isIdentifierStart_iff (start : isNameStart c = true) :
    (c == '_' || isIdentifierStart c) = true ↔ identifierStartMissing.contains c.toNat = false := by
  have apart : identifierStartMissing.Apart identifierStartExtra := by decide
  constructor
  · intro admitted
    rcases Bool.or_eq_true_iff.1 admitted with underscore | identifier
    · rw [eq_of_beq underscore]
      decide
    · by_contra missing
      rw [Bool.not_eq_false] at missing
      have noExtra := apart.not_contains missing
      simp [isIdentifierStart, missing, noExtra] at identifier
  · intro present
    rcases Bool.or_eq_true_iff.1 start with letter | underscore
    · simp [isIdentifierStart, letter, present]
    · rw [underscore, Bool.true_or]

/-- A part of names may continue an identifier unless it is barred from that. -/
theorem isIdentifierContinue_iff (part : isNamePart c = true) :
    isIdentifierContinue c = true ↔ identifierContinueMissing.contains c.toNat = false := by
  have apart : identifierContinueMissing.Apart identifierContinueExtra := by decide
  have word : isWordChar c = true := by
    rcases Bool.or_eq_true_iff.1 part with plain | underscore
    · rw [isWordChar, plain, Bool.true_or]
    · rw [eq_of_beq underscore]
      decide
  constructor
  · intro identifier
    by_contra missing
    rw [Bool.not_eq_false] at missing
    have noExtra := apart.not_contains missing
    simp [isIdentifierContinue, missing, noExtra] at identifier
  · intro present
    simp [isIdentifierContinue, word, present]

/-- Both sides take the same ASCII characters. -/
theorem agree_of_ascii (ascii : c.toNat < 128) :
    (isIdentifierStart c = true ∨ isIdentifierContinue c = true → isNamePart c = true) ∧
      identifierStartMissing.contains c.toNat = false ∧
      identifierContinueMissing.contains c.toNat = false := by
  have each : ∀ code < 128,
      (isIdentifierStart (Char.ofNat code) = true ∨ isIdentifierContinue (Char.ofNat code) = true →
          isNamePart (Char.ofNat code) = true) ∧
        identifierStartMissing.contains (Char.ofNat code).toNat = false ∧
        identifierContinueMissing.contains (Char.ofNat code).toNat = false := by
    decide
  have same := each c.toNat ascii
  rwa [Char.ofNat_toNat] at same

end

/-! ## Whole names -/

/-- The text is read as one name and nothing else. -/
def IsName (text : String) : Prop :=
  scan text = [{ kind := .identifier, text, offset := 0 }]

instance (text : String) : Decidable (IsName text) :=
  inferInstanceAs (Decidable (_ = _))

/-- Letters, decimal digits and underscores of which a digit is not the first. -/
def NameSpelling (text : List Char) : Prop :=
  text.head?.any isNameStart = true ∧ ∀ c ∈ text, isNamePart c = true

section

variable {text : List Char} {name : String}

theorem IsName.lexeme (isName : IsName name) : Lexeme .identifier name.toList := by
  have orderly : Lexed.Orderly (.ofText name) (scan name) :=
    Lexed.scanFrom_orderly name.toList 0 [] (List.nil_append _).symm rfl
  rw [isName] at orderly
  exact orderly.1.lexeme (show Kind.identifier ∈ freeKinds by decide) nofun

/-- A lexeme that is a name is spelled like one. -/
theorem Looks.nameSpelling (looks : Looks .identifier text) : NameSpelling text := by
  cases looks with
  | name begins parts => exact ⟨begins, parts⟩
  | number isNumber _ _ => exact absurd isNumber (by decide)
  | quoted isQuote _ =>
      have free : ∀ entry ∈ quotes, entry.1 ≠ .identifier := by decide
      exact absurd rfl (free _ isQuote)
  | fixed listed => exact absurd listed (by decide)

/-- Only a name or a keyword looks like a name at its front. -/
theorem Looks.eq_identifier {kind : Kind} (looks : Looks kind text)
    (begins : text.head?.any isNameStart = true) : kind = .identifier ∨ kind ∈ Kind.keywords := by
  cases looks with
  | name _ _ => exact .inl rfl
  | number _ digits _ =>
      cases text with
      | nil => cases digits
      | cons c rest =>
          rw [List.head?_cons, Option.any_some] at begins
          simp only [beginsNumber, Bool.or_eq_true, Bool.and_eq_true, beq_iff_eq] at digits
          rcases digits with digit | ⟨rfl, -⟩
          · rw [isNameStart_of_isDigit digit] at begins
            cases begins
          · exact absurd begins (by decide)
  | quoted isQuote _ =>
      rw [List.head?_cons, Option.any_some, (quotes_foreign _ isQuote).1] at begins
      cases begins
  | fixed listed =>
      have marks : ∀ kind ∈ fixedKinds, kind.spelling.toList.head?.any isNameStart = true →
          kind ∈ Kind.keywords := by
        decide
      exact .inr (marks kind listed begins)
  | _ => exact absurd begins (by simp; decide)

/-- What is spelled like a name is one, unless it is a keyword. -/
theorem NameSpelling.lexeme (spelling : NameSpelling text)
    (noKeyword : ∀ kind ∈ Kind.keywords, text ≠ kind.spelling.toList) :
    Lexeme .identifier text := by
  have covers : ∃ shape ∈ shapes, shape.2.covers text = true := by
    obtain ⟨c, rest, rfl⟩ : ∃ c rest, text = c :: rest := by
      cases text with
      | nil => cases spelling.1
      | cons c rest => exact ⟨c, rest, rfl⟩
    have member : c :: rest ∈ nameShape.language :=
      mem_nameShape (by simpa using spelling.1) (List.forall_mem_cons.1 spelling.2).2
    exact ⟨(.identifier, nameShape), by simp [shapes], Pattern.covers_iff.2 member⟩
  obtain ⟨found, isFound⟩ := Option.isSome_iff_exists.1 (List.find?_isSome.2 covers)
  have covered : covering? shapes text = some found.1 := by rw [covering?, isFound, Option.map_some]
  have looks := looks_of_covering? covered
  rcases looks.eq_identifier spelling.1 with same | keyword
  · rw [same] at covered
    exact ⟨covered, by decide⟩
  · exact absurd (looks.eq_spelling (List.contains_iff_mem.2 keyword)) (noKeyword _ keyword)

/-- A text is read as one name exactly if it is a lexeme of names. -/
theorem isName_iff_lexeme : IsName name ↔ Lexeme .identifier name.toList := by
  refine ⟨IsName.lexeme, fun lexeme => ?_⟩
  have head : headToken (name.toList ++ []) = (.identifier, name.toList.length) :=
    lexeme.headToken nofun
  rw [List.append_nil] at head
  have spelling := lexeme.looks.nameSpelling
  unfold IsName
  rw [scan]
  cases filled : name.toList with
  | nil => exact absurd filled lexeme.ne_nil
  | cons c rest =>
      rw [filled] at head spelling
      have noSeparator : isSeparator c = false := by
        by_contra separator
        simp only [isSeparator, Bool.not_eq_false, Bool.or_eq_true, beq_iff_eq] at separator
        have starts : isNameStart c = true := by simpa using spelling.1
        rcases separator with ((rfl | rfl) | rfl) | rfl <;> exact absurd starts (by decide)
      have whole : name = String.ofList (c :: rest) := by rw [← filled, String.ofList_toList]
      rw [scanFrom, noSeparator]
      simp [head, whole, scanFrom]

end

end Token

namespace Ident

open Token (IsName NameSpelling isNamePart isNameStart)

theorem isValid_iff {name : String} {c : Char} {rest : List Char} (spelled : name.toList = c :: rest) :
    isValid name = true ↔
      (c == '_' || isIdentifierStart c) = true ∧ ∀ d ∈ rest, isIdentifierContinue d = true := by
  rw [isValid, spelled, Bool.and_eq_true, List.all_eq_true]

/-- The parts of a name that the builders admit are spelled like a name. -/
theorem nameSpelling_of_isValid {name : String} (valid : isValid name = true)
    (parts : ∀ c ∈ name.toList, isNamePart c = true) : NameSpelling name.toList := by
  refine ⟨?_, parts⟩
  cases spelled : name.toList with
  | nil =>
      rw [isValid, spelled] at valid
      cases valid
  | cons c rest =>
      rw [spelled] at parts
      rw [List.head?_cons, Option.any_some]
      rcases Bool.or_eq_true_iff.1 ((isValid_iff spelled).1 valid).1 with underscore | start
      · rw [isNameStart, underscore, Bool.or_true]
      · exact Token.isNameStart_of_isIdentifierStart start (parts c List.mem_cons_self)

/-- A name is admitted exactly if none of its characters is barred from identifiers. -/
theorem isValid_iff_of_nameSpelling {name : String} (spelling : NameSpelling name.toList) :
    isValid name = true ↔
      (∀ c ∈ name.toList.head?, identifierStartMissing.contains c.toNat = false) ∧
        ∀ c ∈ name.toList.tail, identifierContinueMissing.contains c.toNat = false := by
  obtain ⟨starts, parts⟩ := spelling
  cases spelled : name.toList with
  | nil =>
      rw [spelled] at starts
      cases starts
  | cons c rest =>
      rw [spelled, List.head?_cons, Option.any_some] at starts
      rw [spelled] at parts
      rw [isValid_iff spelled, Token.isIdentifierStart_iff starts]
      apply and_congr
      · simp
      · apply forall₂_congr
        intro d member
        exact Token.isIdentifierContinue_iff (parts d (List.mem_cons_of_mem c member))

/-- A text other than a keyword is read as one name exactly if it is spelled in letters, decimal
digits and underscores and does not begin with a digit.  A name that the builders admit is read as
one name exactly if it is spelled in these characters; a name that is read as one is admitted
exactly if it holds none of the letters that are barred from identifiers.  On ASCII names the
builders and the scanner agree. -/
theorem isValid_isName {name : String} (noKeyword : ∀ kind ∈ Kind.keywords, name ≠ kind.spelling) :
    (IsName name ↔ NameSpelling name.toList) ∧
    (isValid name = true → (IsName name ↔ ∀ c ∈ name.toList, isNamePart c = true)) ∧
    (IsName name → (isValid name = true ↔
      (∀ c ∈ name.toList.head?, identifierStartMissing.contains c.toNat = false) ∧
        ∀ c ∈ name.toList.tail, identifierContinueMissing.contains c.toNat = false)) ∧
    ((∀ c ∈ name.toList, c.toNat < 128) → (isValid name = true ↔ IsName name)) := by
  have spelled : IsName name ↔ NameSpelling name.toList := by
    rw [Token.isName_iff_lexeme]
    constructor
    · intro lexeme
      exact lexeme.looks.nameSpelling
    · intro spelling
      exact spelling.lexeme fun kind listed same => noKeyword kind listed (String.toList_inj.1 same)
  refine ⟨spelled, fun valid => ?_, fun isName => ?_, fun ascii => ⟨fun valid => ?_, fun isName => ?_⟩⟩
  · rw [spelled]
    exact ⟨And.right, nameSpelling_of_isValid valid⟩
  · exact isValid_iff_of_nameSpelling (spelled.1 isName)
  · apply spelled.2
    apply nameSpelling_of_isValid valid
    cases letters : name.toList with
    | nil => exact List.forall_mem_nil _
    | cons c rest =>
        rw [letters] at ascii
        obtain ⟨first, others⟩ := (isValid_iff letters).1 valid
        rw [List.forall_mem_cons]
        constructor
        · rcases Bool.or_eq_true_iff.1 first with underscore | start
          · rw [isNamePart, underscore, Bool.or_true]
          · exact (Token.agree_of_ascii (ascii c List.mem_cons_self)).1 (.inl start)
        · intro d member
          have small := ascii d (List.mem_cons_of_mem c member)
          exact (Token.agree_of_ascii small).1 (.inr (others d member))
  · rw [isValid_iff_of_nameSpelling (spelled.1 isName)]
    constructor
    · intro c first
      exact (Token.agree_of_ascii (ascii c (List.mem_of_mem_head? first))).2.1
    · intro c later
      exact (Token.agree_of_ascii (ascii c (List.mem_of_mem_tail later))).2.2

/-- A name with letters beyond the ASCII ones on which both sides agree. -/
theorem isValid_isName_umlauts : isValid "größe" = true ∧ IsName "größe" := by
  have noKeyword : ∀ kind ∈ Kind.keywords, "größe" ≠ kind.spelling := by decide
  have valid : isValid "größe" = true := by decide
  exact ⟨valid, ((isValid_isName noKeyword).2.1 valid).2 (List.all_eq_true.1 (by decide))⟩

/-- A letter with an accent of its own is admitted as a name, though the scanner cannot read the
accent; a letter that no identifier may begin with is refused, though the scanner reads it. -/
theorem isValid_differs :
    (∀ name ∈ ["a\u0301", "\u037a"], ∀ kind ∈ Kind.keywords, name ≠ kind.spelling) ∧
      isValid "a\u0301" = true ∧
      (Token.scan "a\u0301").map (fun token => (token.kind, token.text)) =
        [(.identifier, "a"), (.error, "\u0301")] ∧
      isValid "\u037a" = false ∧ IsName "\u037a" := by
  decide +kernel

end Ident

end GoMend
