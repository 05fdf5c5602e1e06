import GoMend.Proofs.Token.Junction
import GoMend.Text.Quoted

/-!
# Quoted texts and line comments

A text between quotes, with escapes, is one string literal, whatever the text holds.  A line
comment reaches to the end of its line.
-/

namespace GoMend.Token

open Pattern (covers_iff mem_language_all mem_language_char mem_language_fixed
  language_followedBy mem_characters)

/-- A piece with one of the shapes that can only be of its category is covered as such. -/
theorem covering?_of_mem {kind : Kind} {shape : Pattern} {piece : List Char}
    (listed : (kind, shape) ∈ shapes) (member : piece ∈ shape.language)
    (only : ∀ other, Looks other piece → other = kind) : covering? shapes piece = some kind := by
  cases covered : covering? shapes piece with
  | none =>
      have uncovered := List.find?_eq_none.1 (Option.map_eq_none_iff.1 covered) _ listed
      exact absurd (covers_iff.2 member) uncovered
  | some other => rw [only other (looks_of_covering? covered)]

/-! ## Quoted texts -/

/-- The escaped texts that may stand between double quotes. -/
def Quotable (piece : List Char) : Prop :=
  piece ∈ (Pattern.many (quotedItem '"')).language

namespace Quotable

variable {piece other : List Char}

theorem nil : Quotable [] :=
  Language.nil_mem_kstar _

theorem item (member : piece ∈ (quotedItem '"').language) : Quotable piece :=
  (le_kstar : _ ≤ (Pattern.many (quotedItem '"')).language) member

theorem append (first : Quotable piece) (second : Quotable other) :
    Quotable (piece ++ other) :=
  (kstar_mul_kstar (quotedItem '"').language).le (Language.append_mem_mul first second)

theorem plain {c : Char} (noQuote : c ≠ '"') (noSlash : c ≠ '\\') (noBreak : c ≠ '\n') :
    Quotable [c] := by
  refine item ?_
  rw [quotedItem, Pattern.language_orElse, Language.mem_add]
  exact .inl ⟨c, by simp [noQuote, noSlash, noBreak], rfl⟩

theorem escape {c : Char} (noBreak : c ≠ '\n') : Quotable ['\\', c] := by
  refine item ?_
  rw [quotedItem, Pattern.language_orElse, language_followedBy, Language.mem_add]
  exact .inr (Language.append_mem_mul (a := ['\\']) (mem_language_char.2 rfl)
    ⟨c, by simpa using noBreak, rfl⟩)

end Quotable

/-- The digits of a number are no special characters. -/
theorem quotable_hexDigits (code : Nat) : Quotable (Text.hexDigits code).toList := by
  have digit : ∀ digit < 16, Quotable [digit.digitChar] := by
    have plain : ∀ digit < 16, digit.digitChar ≠ '"' ∧ digit.digitChar ≠ '\\' ∧
        digit.digitChar ≠ '\n' := by
      decide
    intro digit below
    obtain ⟨noQuote, noSlash, noBreak⟩ := plain digit below
    exact .plain noQuote noSlash noBreak
  rw [Text.hexDigits, String.toList_ofList]
  induction code using Nat.strongRecOn with
  | ind code ih =>
      rw [Nat.toDigits_eq_if (by decide)]
      split
      · rename_i below
        exact digit code below
      · rename_i large
        have smaller : code / 16 < code := Nat.div_lt_self (by omega) (by decide)
        exact (ih _ smaller).append (digit _ (Nat.mod_lt _ (by decide)))

/-- Every character is quoted by what may stand between quotes. -/
theorem quotable_quoteChar (c : Char) : Quotable (Text.quoteChar c).toList := by
  unfold Text.quoteChar
  split_ifs with isNul isTab isReturn isBreak isSlash isQuote isPlain
  iterate 6 exact .escape (by decide)
  · rw [Char.toString_eq_singleton, String.toList_singleton]
    exact .plain isQuote isSlash isBreak
  · rw [String.toList_append, String.toList_append]
    have opening : Quotable "\\u\x7b".toList :=
      (Quotable.escape (c := 'u') (by decide)).append (.plain (by decide) (by decide) (by decide))
    have closing : Quotable "\x7d".toList := .plain (by decide) (by decide) (by decide)
    exact (opening.append (quotable_hexDigits _)).append closing

/-- A quoted text is a string literal. -/
theorem lexeme_quote (text : String) : Lexeme .string (Text.quote text).toList := by
  have items : Quotable (text.toList.flatMap fun c => (Text.quoteChar c).toList) := by
    induction text.toList with
    | nil => exact .nil
    | cons c rest ih => exact (quotable_quoteChar c).append ih
  have written : (Text.quote text).toList =
      '"' :: ((text.toList.flatMap fun c => (Text.quoteChar c).toList) ++ ['"']) := by
    simp [Text.quote, String.toList_join, List.flatMap_map]
  have member : (Text.quote text).toList ∈ stringShape.language := by
    rw [stringShape, Pattern.language_orElse, Language.mem_add, written]
    refine .inl (mem_language_all.2 ⟨['"'], mem_language_char.2 rfl, _, ?_, rfl⟩)
    refine mem_language_all.2 ⟨_, items, _, ?_, rfl⟩
    exact mem_language_all.2 ⟨_, mem_language_char.2 rfl, [], (Language.mem_one _).2 rfl, rfl⟩
  have listed : (Kind.string, stringShape) ∈ shapes := by simp [shapes]
  refine ⟨covering?_of_mem listed member fun kind looks => ?_, rfl⟩
  exact ((written ▸ looks).quoted_items (by simp [quotes])).1

/-! ## Line comments -/

/-- A line comment is cut off where its line ends. -/
theorem headToken_lineComment {text : List Char} (oneLine : '\n' ∉ text) (behind : List Char) :
    headToken ('/' :: '/' :: text ++ '\n' :: behind) = (.lineComment, text.length + 2) := by
  have member : '/' :: '/' :: text ∈ lineCommentShape.language := by
    rw [lineCommentShape, language_followedBy]
    refine Language.append_mem_mul (a := ['/', '/']) (mem_language_fixed.2 rfl) ?_
    refine Pattern.mem_many_one_of_forall fun c member => ?_
    have other : c ≠ '\n' := fun isBreak => oneLine (isBreak ▸ member)
    simpa using other
  have listed : (Kind.lineComment, lineCommentShape) ∈ shapes := by simp [shapes]
  have covered : covering? shapes ('/' :: '/' :: text) = some .lineComment :=
    covering?_of_mem listed member fun kind looks => looks.lineComment_of_opens.1
  have bound : ∀ longer, Fits shapes ('/' :: '/' :: text ++ '\n' :: behind) longer →
      longer.length ≤ ('/' :: '/' :: text).length := by
    rintro longer ⟨shape, listed, inShape, begins⟩
    by_contra isLonger
    have further : '/' :: '/' :: text ++ ['\n'] <+: longer := by
      have read : '/' :: '/' :: text ++ ['\n'] <+: '/' :: '/' :: text ++ '\n' :: behind :=
        ⟨behind, by simp⟩
      refine List.prefix_of_prefix_length_le read begins ?_
      simp at isLonger ⊢
      omega
    obtain ⟨rest, rfl⟩ := further
    have looks := looks_of_mem listed inShape
    simpa using looks.lineComment_of_opens.2
  have cut := longestShape?_of_covering? covered bound
  rw [headToken, List.cons_append, List.head?_cons, Option.elim_some, longestShape?_shapesAt,
    ← List.cons_append, cut]
  rfl

theorem scanFrom_lineComment {text : List Char} (oneLine : '\n' ∉ text) (behind : List Char)
    (offset : Nat) :
    scanFrom ('/' :: '/' :: text ++ '\n' :: behind) offset =
      { kind := .lineComment, text := String.ofList ('/' :: '/' :: text), offset } ::
        scanFrom ('\n' :: behind) (offset + byteLength ('/' :: '/' :: text)) := by
  have cut := headToken_lineComment oneLine behind
  rw [List.cons_append] at cut ⊢
  rw [scanFrom, if_neg (by decide), cut]
  simp

end GoMend.Token
