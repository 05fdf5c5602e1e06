import GoMend.Grammar.Parser
import GoMend.Proofs.Token.Junction

/-!
# Lexemes and lines of the words

The words that the grammar reads stand on lines that never decrease, and a word with line
breaks in it ends so many lines further down.  A name or literal is a lexeme unless an error
follows.
-/

namespace GoMend

namespace LineIndex

/-- The line of an offset. -/
def lineAt (index : LineIndex) (offset : Nat) : Nat :=
  (index.position offset).line

theorem lineAt_mono {index : LineIndex} {offset later : Nat} (before : offset ≤ later) :
    index.lineAt offset ≤ index.lineAt later := by
  simp only [lineAt, position]
  induction index.later with
  | nil => simp
  | cons start rest ih =>
      by_cases begun : start ≤ offset
      · simpa [List.takeWhile_cons, begun, begun.trans before] using ih
      · simp [List.takeWhile_cons, begun]

theorem startsAfterBreaks_append (left right : List Char) (offset : Nat) :
    startsAfterBreaks (left ++ right) offset =
      startsAfterBreaks left offset ++ startsAfterBreaks right (offset + Token.byteLength left) := by
  induction left generalizing offset with
  | nil => rfl
  | cons c left ih =>
      simp only [List.cons_append, startsAfterBreaks, ih, Token.byteLength_cons, Nat.add_assoc]
      split <;> rfl

theorem length_startsAfterBreaks (text : List Char) (offset : Nat) :
    (startsAfterBreaks text offset).length = text.count '\n' := by
  induction text generalizing offset with
  | nil => rfl
  | cons c text ih =>
      simp only [startsAfterBreaks]
      split
      · rename_i isBreak
        rw [List.length_cons, ih, isBreak, List.count_cons_self]
      · rename_i noBreak
        rw [ih, List.count_cons_of_ne noBreak]

theorem mem_startsAfterBreaks {text : List Char} {offset start : Nat}
    (member : start ∈ startsAfterBreaks text offset) :
    offset < start ∧ start ≤ offset + Token.byteLength text := by
  induction text generalizing offset with
  | nil => cases member
  | cons c text ih =>
      have filled := c.utf8Size_pos
      rw [startsAfterBreaks] at member
      rw [Token.byteLength_cons]
      split at member
      · rcases List.mem_cons.1 member with rfl | member
        · omega
        · have behind := ih member
          omega
      · have behind := ih member
        omega

/-- The line of an offset is told by the line breaks before it. -/
theorem lineAt_ofText {text : String} {before behind : List Char}
    (whole : text.toList = before ++ behind) :
    (ofText text).lineAt (Token.byteLength before) = before.count '\n' + 1 := by
  have stop : (startsAfterBreaks behind (0 + Token.byteLength before)).takeWhile
      (· ≤ Token.byteLength before) = [] := by
    rw [List.takeWhile_eq_nil_iff]
    intro nonempty
    have inside := (mem_startsAfterBreaks (List.get_mem _ ⟨0, nonempty⟩)).1
    simp only [decide_eq_true_eq]
    omega
  have begun : ∀ start ∈ startsAfterBreaks before 0,
      decide (start ≤ Token.byteLength before) = true := by
    intro start member
    have inside := mem_startsAfterBreaks member
    simp only [decide_eq_true_eq]
    omega
  simp only [lineAt, position, ofText, whole]
  rw [startsAfterBreaks_append, List.takeWhile_append_of_pos begun, stop, List.append_nil,
    length_startsAfterBreaks]

end LineIndex

namespace Token

/-- The categories without a fixed text that the grammar reads: names and literals. -/
def freeKinds : List Kind :=
  [.identifier, .int, .float, .imaginary, .char, .string]

section

variable {kind : Kind} {text : List Char} {length : Nat}

/-- An ASCII character begins like a letter or digit only if it is one. -/
theorem isNamePart_of_ascii {c : Char} (ascii : c.toNat < 128)
    (strange : Text.beginsLikeLetter c = true) : Token.isNamePart c = true := by
  have block : Text.leadBlock c.toNat = (c.toNat, c.toNat) := if_pos ascii
  have letters : Text.letterRanges.filter (·.1 < 128) = [(0x41, 0x5A), (0x61, 0x7A)] := by
    decide +kernel
  have digits : Text.decimalDigitRanges.filter (·.1 < 128) = [(0x30, 0x39)] := by
    decide +kernel
  have meets : ∀ {ranges : Text.Ranges}, ranges.meets c.toNat c.toNat = true →
      ∃ range ∈ ranges.filter (·.1 < 128), range.1 ≤ c.toNat ∧ c.toNat ≤ range.2 := by
    intro ranges met
    obtain ⟨range, listed, both⟩ := List.any_eq_true.1 met
    simp only [Bool.and_eq_true, decide_eq_true_eq] at both
    exact ⟨range, List.mem_filter.2 ⟨listed, by simp; omega⟩, both⟩
  have named : ∀ code < 128, 0x30 ≤ code ∧ code ≤ 0x39 ∨ 0x41 ≤ code ∧ code ≤ 0x5A ∨
      0x61 ≤ code ∧ code ≤ 0x7A → Token.isNamePart (Char.ofNat code) = true := by
    decide
  rw [← Char.ofNat_toNat c]
  apply named _ ascii
  rw [Text.beginsLikeLetter, block] at strange
  rcases Bool.or_eq_true_iff.1 strange with letter | digit
  · obtain ⟨range, listed, bounds⟩ := meets letter
    simp only [letters, List.mem_cons, List.not_mem_nil, or_false] at listed
    rcases listed with rfl | rfl
    · exact .inr (.inl bounds)
    · exact .inr (.inr bounds)
  · obtain ⟨range, listed, bounds⟩ := meets digit
    rw [digits, List.mem_singleton] at listed
    subst listed
    exact .inl bounds

/-- A character that begins like a letter begins a word only if it is part of a name. -/
theorem Looks.isNamePart {piece : List Char} {c : Char} (looks : Looks kind (c :: piece))
    (strange : Text.beginsLikeLetter c = true) : Token.isNamePart c = true := by
  have small : c.toNat < 128 → Token.isNamePart c = true :=
    fun ascii => isNamePart_of_ascii ascii strange
  generalize whole : c :: piece = all at looks
  cases looks with
  | name _ parts => exact parts c (by simp [← whole])
  | number _ begins _ =>
      simp only [← whole, beginsNumber, Bool.or_eq_true, Bool.and_eq_true, beq_iff_eq] at begins
      rcases begins with digit | ⟨rfl, -⟩
      · simp only [isDigit, Bool.and_eq_true, decide_eq_true_eq] at digit
        have high : c.toNat ≤ 57 := digit.2
        exact small (by omega)
      · exact small (by decide)
  | quoted isQuote _ =>
      obtain ⟨rfl, -⟩ := List.cons.inj whole
      have plain : ∀ entry ∈ quotes, Text.beginsLikeLetter entry.2 = false := by decide +kernel
      simp [plain _ isQuote] at strange
  | fixed listed =>
      have heads : ∀ kind ∈ fixedKinds,
          kind.spelling.toList.head?.all (fun c => decide (c.toNat < 128)) = true := by
        decide
      exact small (by simpa [← whole] using heads _ listed)
  | _ =>
      obtain ⟨rfl, -⟩ := List.cons.inj whole
      exact small (by decide)

/-- No word begins with such a character that is no part of a name, so an error stands
there. -/
theorem headToken_strange {c : Char} {rest : List Char}
    (strange : Text.beginsLikeLetter c = true) (noPart : Token.isNamePart c = false) :
    isSeparator c = false ∧ (headToken (c :: rest)).1 = .error := by
  constructor
  · simp only [isSeparator, Bool.or_eq_false_iff, beq_eq_false_iff_ne]
    refine ⟨⟨⟨?_, ?_⟩, ?_⟩, ?_⟩ <;> rintro rfl <;> exact absurd strange (by decide +kernel)
  · rw [headToken, List.head?_cons, Option.elim_some, longestShape?_shapesAt]
    cases cut : longestShape? (c :: rest) shapes with
    | none => rfl
    | some found =>
        obtain ⟨kind, size⟩ := found
        obtain ⟨covered, -, -⟩ := covering?_of_longestShape? cut
        cases size with
        | zero => simp [covering?_nil] at covered
        | succ size =>
            rw [List.take_succ_cons] at covered
            simp [(looks_of_covering? covered).isNamePart strange] at noPart

theorem mem_nameShape {c : Char} {rest : List Char} (start : isNameStart c = true)
    (parts : ∀ d ∈ rest, Token.isNamePart d = true) : c :: rest ∈ nameShape.language :=
  Language.mem_mul.2 ⟨[c], ⟨c, start, rfl⟩, rest, Pattern.mem_many_one_of_forall parts, rfl⟩

/-- What looks like a keyword is spelled as one. -/
theorem Looks.eq_spelling {piece : List Char} (looks : Looks kind piece)
    (keyword : kind.isKeyword = true) : piece = kind.spelling.toList := by
  cases looks with
  | fixed listed => rfl
  | number isNumber _ _ =>
      have noKeyword : ∀ kind ∈ [Kind.int, .float, .imaginary], kind.isKeyword = false := by decide
      simp [noKeyword kind isNumber] at keyword
  | quoted isQuote _ =>
      have noKeyword : ∀ entry ∈ quotes, entry.1.isKeyword = false := by decide
      simp [noKeyword _ isQuote] at keyword
  | _ => exact absurd keyword (by decide)

/-- A keyword with letters or digits behind it, or with nothing, is a name. -/
theorem mem_nameShape_of_keyword (keyword : kind.isKeyword = true) {behind : List Char}
    (parts : ∀ d ∈ behind, Token.isNamePart d = true) :
    kind.spelling.toList ++ behind ∈ nameShape.language := by
  have named : ∀ kind ∈ Kind.keywords, kind.spelling.toList.head?.any isNameStart = true ∧
      kind.spelling.toList.all Token.isNamePart = true := by
    decide
  obtain ⟨starts, inside⟩ := named kind (List.contains_iff_mem.1 keyword)
  rw [List.all_eq_true] at inside
  cases spelled : kind.spelling.toList with
  | nil => simp [spelled] at starts
  | cons c rest =>
      rw [spelled] at starts inside
      refine mem_nameShape (by simpa using starts) fun e member => ?_
      rcases List.mem_append.1 member with word | further
      · exact inside e (List.mem_cons_of_mem _ word)
      · exact parts e further

/-- What is cut off is a lexeme, unless an error stands behind a word that would be a
keyword. -/
theorem lexeme_of_headToken (filled : text ≠ []) (head : headToken text = (kind, length))
    (free : kind ∈ freeKinds) :
    length ≠ 0 ∧ (Lexeme kind (text.take length) ∨
      ∃ c rest, text.drop length = c :: rest ∧ isSeparator c = false ∧
        (headToken (c :: rest)).1 = .error) := by
  obtain ⟨c, rest, rfl⟩ := List.exists_cons_of_ne_nil filled
  rw [headToken, List.head?_cons, Option.elim_some, longestShape?_shapesAt] at head
  split at head
  · rename_i other size cut
    split at head
    · cases head
      simp [freeKinds] at free
    · obtain ⟨covered, inside, longest⟩ := covering?_of_longestShape? cut
      simp only [Prod.mk.injEq] at head
      obtain ⟨settled, rfl⟩ := head
      refine ⟨by rintro rfl; simp [covering?_nil] at covered, ?_⟩
      unfold settle at settled
      split at settled
      · rename_i demoted
        rw [Bool.and_eq_true] at demoted
        obtain ⟨keyword, behind⟩ := demoted
        cases left : (c :: rest).drop size with
        | nil => simp [left] at behind
        | cons d further =>
            simp only [left, List.head?_cons, Option.any_some] at behind
            refine .inr ⟨d, further, rfl, headToken_strange behind ?_⟩
            by_contra part
            have spelled := (looks_of_covering? covered).eq_spelling keyword
            have longer : (c :: rest).take size ++ [d] ∈ nameShape.language := by
              rw [spelled]
              exact mem_nameShape_of_keyword keyword (by simpa using part)
            have short := longest _ ⟨(.identifier, nameShape), by simp [shapes], longer, ?_⟩
            · rw [List.length_append, List.length_take, Nat.min_eq_left inside] at short
              exact Nat.not_succ_le_self _ short
            · exact ⟨further, by rw [List.append_assoc, List.singleton_append, ← left,
                List.take_append_drop]⟩
      · subst settled
        have word : ∀ kind ∈ freeKinds, kind.isTrivia = false := by decide
        exact .inl ⟨covered, word _ free⟩
  · cases head
    simp [freeKinds] at free

end

end Token

namespace Lexed

open Token (Lexeme freeKinds scanFrom byteLength headToken isSeparator)

/-- The category of the next word. -/
def headKind : List Token → Kind
  | [] => .endOfFile
  | token :: _ => token.kind

/-- Where the next word begins in a text of the given size. -/
def headOffset (size : Nat) : List Token → Nat
  | [] => size
  | token :: _ => token.offset

/-- What the scanner promises about a word and what follows it: a name or literal is a lexeme
unless an error follows, and the line breaks in it are counted. -/
structure Steps (lines : LineIndex) (token : Token) (rest : List Token) : Prop where
  lexeme : token.kind ∈ freeKinds → headKind rest ≠ .error →
    Lexeme token.kind token.text.toList
  breaks : token.kind ∈ freeKinds →
    lines.lineAt token.offset + token.text.toList.count '\n' ≤
      lines.lineAt (headOffset lines.size rest)
  onwards : lines.lineAt token.offset ≤ lines.lineAt (headOffset lines.size rest)

/-- Words of which each keeps the promise of the scanner. -/
def Orderly (lines : LineIndex) : List Token → Prop
  | [] => True
  | token :: rest => Steps lines token rest ∧ Orderly lines rest

theorem Orderly.of_suffix {lines : LineIndex} {words rest : List Token}
    (orderly : Orderly lines words) (behind : rest <:+ words) : Orderly lines rest := by
  obtain ⟨passed, rfl⟩ := behind
  induction passed with
  | nil => exact orderly
  | cons token passed ih => exact ih orderly.2

/-- Later words begin on later lines. -/
theorem Orderly.lineAt_mono {lines : LineIndex} {words rest : List Token}
    (orderly : Orderly lines words) (behind : rest <:+ words) :
    lines.lineAt (headOffset lines.size words) ≤ lines.lineAt (headOffset lines.size rest) := by
  obtain ⟨passed, rfl⟩ := behind
  induction passed with
  | nil => exact Nat.le_refl _
  | cons token passed ih => exact orderly.1.onwards.trans (ih orderly.2)

section

variable {lines : LineIndex} {tokens : List Token} {pending : Bool}

theorem semicolon_not_free : Kind.semicolon ∉ freeKinds := by
  decide

/-- Dropping comments and inserting semicolons keeps the promise. -/
theorem words_orderly (orderly : Orderly lines tokens) :
    Orderly lines (words lines.size pending tokens) ∧
      (headKind tokens = .error → headKind (words lines.size pending tokens) = .error) ∧
      lines.lineAt (headOffset lines.size tokens) ≤
        lines.lineAt (headOffset lines.size (words lines.size pending tokens)) := by
  fun_induction words lines.size pending tokens with
  | case1 =>
      exact ⟨⟨⟨fun free => absurd free semicolon_not_free,
        fun free => absurd free semicolon_not_free, Nat.le_refl _⟩, trivial⟩, nofun, Nat.le_refl _⟩
  | case2 => exact ⟨trivial, nofun, Nat.le_refl _⟩
  | case3 pending token rest trivia breaks ih =>
      obtain ⟨restOrderly, -, later⟩ := ih orderly.2
      refine ⟨⟨⟨?_, ?_, orderly.1.onwards.trans later⟩, restOrderly⟩, ?_, Nat.le_refl _⟩
      · exact fun free => absurd free semicolon_not_free
      · exact fun free => absurd free semicolon_not_free
      · intro isError
        rw [show token.kind = .error from isError] at trivia
        cases trivia
  | case4 pending token rest trivia noBreak ih =>
      obtain ⟨restOrderly, -, later⟩ := ih orderly.2
      refine ⟨restOrderly, ?_, orderly.1.onwards.trans later⟩
      intro isError
      rw [show token.kind = .error from isError] at trivia
      cases trivia
  | case5 pending token rest isWord ih =>
      obtain ⟨restOrderly, errors, later⟩ := ih orderly.2
      refine ⟨⟨⟨fun free noError => ?_, fun free => ?_, ?_⟩, restOrderly⟩, id, Nat.le_refl _⟩
      · exact orderly.1.lexeme free fun isError => noError (errors isError)
      · exact (orderly.1.breaks free).trans later
      · exact orderly.1.onwards.trans later

end

/-- The scanner begins no token before the place where it stands. -/
theorem le_headOffset (text : List Char) (offset : Nat) :
    offset ≤ headOffset (offset + byteLength text) (scanFrom text offset) := by
  have within := Token.scanFrom_within text offset
  cases tokens : scanFrom text offset with
  | nil => exact Nat.le_add_right _ _
  | cons token rest => exact (within.1 token (by simp [tokens])).1

theorem headKind_scanFrom {c : Char} {rest : List Char} {offset : Nat}
    (noSeparator : isSeparator c = false) :
    headKind (scanFrom (c :: rest) offset) = (headToken (c :: rest)).1 := by
  rw [scanFrom, if_neg (by simp [noSeparator]), headKind]

/-- The scanner keeps its promise. -/
theorem scanFrom_orderly {text : String} (behind : List Char) (offset : Nat) :
    ∀ before, text.toList = before ++ behind → byteLength before = offset →
      Orderly (LineIndex.ofText text) (scanFrom behind offset) := by
  fun_induction scanFrom behind offset with
  | case1 => exact fun _ _ _ => trivial
  | case2 c rest offset separator ih =>
      intro before whole start
      refine ih (before ++ [c]) (by simp [whole]) ?_
      rw [Token.byteLength_append, start]
      rfl
  | case3 c rest offset noSeparator kind length head piece ih =>
      intro before whole start
      have split : text.toList = (before ++ piece) ++ rest.drop (length - 1) := by
        rw [whole, List.append_assoc, List.cons_append, List.take_append_drop]
      have finish : byteLength (before ++ piece) = offset + byteLength piece := by
        rw [Token.byteLength_append, start]
      have size : (LineIndex.ofText text).size =
          offset + byteLength piece + byteLength (rest.drop (length - 1)) := by
        rw [← finish, ← Token.byteLength_append, ← split, Token.byteLength_toList]
        rfl
      have later : (LineIndex.ofText text).lineAt (offset + byteLength piece) ≤
          (LineIndex.ofText text).lineAt (headOffset (LineIndex.ofText text).size
            (scanFrom (rest.drop (length - 1)) (offset + byteLength piece))) := by
        rw [size]
        exact LineIndex.lineAt_mono (le_headOffset _ _)
      refine ⟨⟨fun free noError => ?_, fun free => ?_, ?_⟩, ih _ split finish⟩
      · obtain ⟨filled, lexeme | ⟨d, further, left, noSeparator, isError⟩⟩ :=
          Token.lexeme_of_headToken (List.cons_ne_nil c rest) head free
        · obtain ⟨size, rfl⟩ := Nat.exists_eq_succ_of_ne_zero filled
          simpa [piece] using lexeme
        · obtain ⟨size, rfl⟩ := Nat.exists_eq_succ_of_ne_zero filled
          rw [List.drop_succ_cons] at left
          rw [Nat.succ_sub_one, left, headKind_scanFrom noSeparator] at noError
          exact absurd isError noError
      · refine Nat.le_trans (Nat.le_of_eq ?_) later
        rw [← finish, ← start, LineIndex.lineAt_ofText whole, LineIndex.lineAt_ofText split,
          String.toList_ofList, List.count_append]
        exact Nat.add_right_comm _ _ _
      · exact (LineIndex.lineAt_mono (Nat.le_add_right _ _)).trans later

/-- The words of a text keep the promise of the scanner. -/
theorem ofText_orderly (text : String) :
    Orderly (LineIndex.ofText text) (Lexed.ofText text).tokens := by
  have scanned : Orderly (LineIndex.ofText text) (Token.scan text) :=
    scanFrom_orderly text.toList 0 [] (List.nil_append _).symm rfl
  exact (words_orderly scanned).1

end Lexed

end GoMend
