import Mathlib.Algebra.GroupWithZero.Nat
import GoMend.Proofs.Syntax.Pieces
import GoMend.Proofs.Token.Lines

/-!
# Scanning a layout

Writing the pieces of a layout one after another and scanning the text gives back the words
among the pieces, on the lines on which they were written, if no two words fuse and no line
ends where a semicolon would be inserted.
-/

namespace GoMend

open Token (Lexeme goesOn isNameStart isDigit fixedKinds scanFrom byteLength headToken)
open Lexed (words isComment)

namespace Piece

/-- The word that a piece stands for. -/
def word? : Piece → Option (Kind × String)
  | .mark kind => some (kind, kind.spelling)
  | .name occurrence => some (.identifier, occurrence.name)
  | .literal value => some (value.kind.kind, value.text)
  | _ => none

/-- The line breaks in a piece. -/
def breaks : Piece → Nat
  | .name occurrence => occurrence.name.toList.count '\n'
  | .literal value => value.text.toList.count '\n'
  | .line => 1
  | _ => 0

/-- The line breaks in a layout. -/
def breaksIn (pieces : List Piece) : Nat :=
  (pieces.map breaks).sum

/-- The number of words in a layout. -/
def wordsIn (pieces : List Piece) : Nat :=
  (pieces.filterMap word?).length

/-- The category of the first word of a layout. -/
def lead? (pieces : List Piece) : Option Kind :=
  pieces.findSome? fun piece => piece.word?.map Prod.fst

/-- The characters of a layout that begins at an indentation depth. -/
def chars : Nat → List Piece → List Char
  | _, [] => []
  | depth, piece :: rest => (piece.text depth).toList ++ chars (piece.depthAfter depth) rest

/-- The indentation depth behind a layout. -/
def depthBehind (depth : Nat) (pieces : List Piece) : Nat :=
  pieces.foldl (fun depth piece => piece.depthAfter depth) depth

theorem chars_append (depth : Nat) (left right : List Piece) :
    chars depth (left ++ right) = chars depth left ++ chars (depthBehind depth left) right := by
  induction left generalizing depth with
  | nil => rfl
  | cons piece left ih =>
      rw [List.cons_append, chars, chars, ih, List.append_assoc]
      rfl

/-- The text of a layout consists of the characters of its pieces. -/
theorem toList_render (pieces : List Piece) : (render pieces).toList = chars 0 pieces := by
  have joined : ∀ (texts : List String) (text : String),
      (texts.foldl (· ++ ·) text).toList = text.toList ++ texts.flatMap String.toList := by
    intro texts
    induction texts with
    | nil => simp
    | cons next texts ih => simp [ih]
  have written : ∀ depth, (texts depth pieces).flatMap String.toList = chars depth pieces := by
    induction pieces with
    | nil => exact fun _ => rfl
    | cons piece rest ih => simp [texts, chars, ih]
  rw [render, String.join, joined, written]
  rfl

section

variable {left right pieces : List Piece}

@[simp] theorem breaksIn_nil : breaksIn [] = 0 := rfl

@[simp] theorem breaksIn_cons (piece : Piece) :
    breaksIn (piece :: pieces) = piece.breaks + breaksIn pieces := by
  simp [breaksIn]

@[simp] theorem breaksIn_append : breaksIn (left ++ right) = breaksIn left + breaksIn right := by
  simp [breaksIn]

@[simp] theorem wordsIn_nil : wordsIn [] = 0 := rfl

@[simp] theorem wordsIn_append : wordsIn (left ++ right) = wordsIn left + wordsIn right := by
  simp [wordsIn]

@[simp] theorem wordsIn_mark (kind : Kind) : wordsIn (.mark kind :: pieces) = wordsIn pieces + 1 :=
  rfl

@[simp] theorem wordsIn_name (name : Ident) : wordsIn (.name name :: pieces) = wordsIn pieces + 1 :=
  rfl

@[simp] theorem wordsIn_literal (value : Literal) :
    wordsIn (.literal value :: pieces) = wordsIn pieces + 1 :=
  rfl

@[simp] theorem wordsIn_blank : wordsIn (.blank :: pieces) = wordsIn pieces := rfl

@[simp] theorem wordsIn_line : wordsIn (.line :: pieces) = wordsIn pieces := rfl

@[simp] theorem wordsIn_indent : wordsIn (.indent :: pieces) = wordsIn pieces := rfl

@[simp] theorem wordsIn_dedent : wordsIn (.dedent :: pieces) = wordsIn pieces := rfl

theorem lead?_append {kind : Kind} (begins : lead? left = some kind) :
    lead? (left ++ right) = some kind := by
  rw [lead?, List.findSome?_append, show left.findSome? _ = some kind from begins]
  rfl

@[simp] theorem lead?_mark (kind : Kind) : lead? (.mark kind :: pieces) = some kind := rfl

@[simp] theorem lead?_name (name : Ident) : lead? (.name name :: pieces) = some .identifier := rfl

@[simp] theorem lead?_literal (value : Literal) :
    lead? (.literal value :: pieces) = some value.kind.kind :=
  rfl

end

end Piece

/-! ## Words that may stand side by side -/

namespace Token

/-- Whether a name or literal may begin with the character. -/
def freeOpensWith : Kind → Char → Bool
  | .identifier => isNameStart
  | .int | .float | .imaginary => fun c => isDigit c || c == '.'
  | .char => (· == '\'')
  | _ => fun c => c == '"' || c == '`'

/-- Whether a word of the category may begin with the character. -/
def opensWith (kind : Kind) (c : Char) : Bool :=
  if kind ∈ fixedKinds then kind.spelling.toList.head? == some c else freeOpensWith kind c

/-- No word of the second category goes on with a word of the first one before it. -/
def Joins (left right : Kind) : Prop :=
  ∀ c, opensWith right c = true → goesOn left c = false

theorem Lexeme.opens {kind : Kind} {piece : List Char} (lexeme : Lexeme kind piece) :
    ∃ c rest, piece = c :: rest ∧ opensWith kind c = true := by
  obtain ⟨c, rest, rfl⟩ := List.exists_cons_of_ne_nil lexeme.ne_nil
  refine ⟨c, rest, rfl, ?_⟩
  have looks := lexeme.looks
  generalize whole : c :: rest = piece at looks
  cases looks with
  | name begins _ =>
      rw [← whole, List.head?_cons, Option.any_some] at begins
      exact begins
  | number isNumber begins _ =>
      have free : opensWith kind c = (isDigit c || c == '.') := by
        simp only [List.mem_cons, List.not_mem_nil, or_false] at isNumber
        rcases isNumber with rfl | rfl | rfl <;> rfl
      simp only [← whole, beginsNumber, Bool.or_eq_true, Bool.and_eq_true] at begins
      simp only [free, Bool.or_eq_true]
      exact begins.imp_right And.left
  | quoted isQuote _ =>
      obtain ⟨rfl, -⟩ := List.cons.inj whole
      have free : ∀ entry ∈ quotes, opensWith entry.1 entry.2 = true := by decide
      exact free _ isQuote
  | fixed listed => rw [opensWith, if_pos listed, ← whole, List.head?_cons, beq_self_eq_true]
  | _ => cases lexeme.word

/-- No word begins with a character that separates words. -/
theorem isSeparator_of_opensWith {kind : Kind} {c : Char} (opens : opensWith kind c = true) :
    isSeparator c = false := by
  by_contra separator
  have listed : c ∈ [' ', '\t', '\r', '\x0c'] := by
    simpa only [isSeparator, Bool.not_eq_false, Bool.or_eq_true, beq_iff_eq, or_assoc,
      List.mem_cons, List.not_mem_nil, or_false] using separator
  unfold opensWith at opens
  split at opens
  · rename_i isFixed
    have heads : ∀ kind ∈ fixedKinds,
        kind.spelling.toList.head?.all (fun c => !isSeparator c) = true := by
      decide
    have head := heads kind isFixed
    rw [beq_iff_eq.1 opens] at head
    exact separator (by simpa using head)
  · have names : [' ', '\t', '\r', '\x0c'].all (fun c => decide (isNameStart c = false ∧
        (isDigit c || c == '.') = false ∧ (c == '\'') = false ∧
          (c == '"' || c == '`') = false)) = true := by
      decide
    obtain ⟨noName, noDigit, noQuote, noString⟩ :=
      of_decide_eq_true (List.all_eq_true.1 names c listed)
    unfold freeOpensWith at opens
    split at opens <;> simp_all

/-- A blank goes on with no word, nor does a line break. -/
theorem goesOn_blank {kind : Kind} {c : Char} (listed : c ∈ [' ', '\n']) :
    goesOn kind c = false := by
  have parts : [' ', '\n'].all (fun c => decide (isNamePart c = false ∧
      Text.beginsLikeLetter c = false ∧ isNumberPart c = false ∧
        ∀ kind ∈ Kind.operators ++ Kind.punctuation, (extensions kind).contains c = false)) =
          true := by
    decide +kernel
  obtain ⟨noName, noLetter, noNumber, noMark⟩ :=
    of_decide_eq_true (List.all_eq_true.1 parts c listed)
  unfold goesOn
  split
  · simp [noName, noLetter]
  · split
    · rename_i mark
      exact noMark kind mark
    · unfold freeGoesOn
      split <;> simp_all

/-- The spelling of a category is a word of it. -/
theorem lexeme_spelling : ∀ kind ∈ fixedKinds, Lexeme kind kind.spelling.toList := by
  have covered : ∀ kind ∈ fixedKinds,
      covering? shapes kind.spelling.toList = some kind ∧ kind.isTrivia = false := by
    decide
  exact fun kind listed => ⟨(covered kind listed).1, (covered kind listed).2⟩

theorem Joins.of_extensions {left right : Kind} (mark : left ∈ Kind.operators ++ Kind.punctuation)
    (apart : (extensions left).all (fun c => !opensWith right c) = true) : Joins left right := by
  intro c opens
  rw [goesOn_mark mark]
  by_contra extends_
  rw [Bool.not_eq_false, List.contains_iff_mem] at extends_
  simpa [opens] using List.all_eq_true.1 apart c extends_

theorem Joins.of_head {left right : Kind} (mark : right ∈ fixedKinds)
    (apart : right.spelling.toList.head?.all (fun c => !goesOn left c) = true) :
    Joins left right := by
  intro c opens
  rw [opensWith, if_pos mark, beq_iff_eq] at opens
  simpa [opens] using apart

end Token

namespace Piece

/-! ## Legible layouts -/

/-- The place where a layout is written on: the last word before it, and whether nothing
stands between the two. -/
structure Pen where
  last : Kind
  glued : Bool

/-- The pieces can be written on at the first place, up to the second, such that the words
among them can be told apart: words without a blank between them do not fuse, and a line ends
only behind a word that ends no statement. -/
inductive Legible : Pen → List Piece → Pen → Prop
  | nil {pen : Pen} : Legible pen [] pen
  | word {pen final : Pen} {piece : Piece} {rest : List Piece} {kind : Kind} {text : String}
      (isWord : piece.word? = some (kind, text)) (lexeme : Lexeme kind text.toList)
      (joins : pen.glued = true → Token.Joins pen.last kind)
      (behind : Legible ⟨kind, true⟩ rest final) : Legible pen (piece :: rest) final
  | blank {pen final : Pen} {rest : List Piece} (behind : Legible ⟨pen.last, false⟩ rest final) :
      Legible pen (.blank :: rest) final
  | line {pen final : Pen} {rest : List Piece} (goesOn : pen.last.endsStatement = false)
      (behind : Legible ⟨pen.last, false⟩ rest final) : Legible pen (.line :: rest) final
  | indent {pen final : Pen} {rest : List Piece} (behind : Legible pen rest final) :
      Legible pen (.indent :: rest) final
  | dedent {pen final : Pen} {rest : List Piece} (behind : Legible pen rest final) :
      Legible pen (.dedent :: rest) final

theorem Legible.append {pen middle final : Pen} {left right : List Piece}
    (first : Legible pen left middle) (second : Legible middle right final) :
    Legible pen (left ++ right) final := by
  induction first with
  | nil => exact second
  | word isWord lexeme joins _ ih => exact .word isWord lexeme joins (ih second)
  | blank _ ih => exact .blank (ih second)
  | line goesOn _ ih => exact .line goesOn (ih second)
  | indent _ ih => exact .indent (ih second)
  | dedent _ ih => exact .dedent (ih second)

/-- The words among the pieces stand at the front of the words that are read, each on the line
on which it was written, and the rest behind them. -/
def Placed (lines : LineIndex) : Nat → List Piece → List Token → List Token → Prop
  | _, [], ahead, rest => ahead = rest
  | row, piece :: more, ahead, rest =>
      match piece.word? with
      | some (kind, text) =>
          ∃ offset behind, ahead = { kind, text, offset } :: behind ∧
            lines.lineAt offset = row ∧ Placed lines (row + piece.breaks) more behind rest
      | none => Placed lines (row + piece.breaks) more ahead rest

section

variable {lines : LineIndex} {row : Nat} {left right more : List Piece}
  {ahead rest : List Token}

@[simp] theorem placed_nil : Placed lines row [] ahead rest ↔ ahead = rest := Iff.rfl

@[simp] theorem placed_mark {kind : Kind} :
    Placed lines row (.mark kind :: more) ahead rest ↔
      ∃ offset behind, ahead = { kind, text := kind.spelling, offset } :: behind ∧
        lines.lineAt offset = row ∧ Placed lines row more behind rest :=
  Iff.rfl

@[simp] theorem placed_name {name : Ident} :
    Placed lines row (.name name :: more) ahead rest ↔
      ∃ offset behind, ahead = { kind := .identifier, text := name.name, offset } :: behind ∧
        lines.lineAt offset = row ∧
          Placed lines (row + name.name.toList.count '\n') more behind rest :=
  Iff.rfl

@[simp] theorem placed_literal {value : Literal} :
    Placed lines row (.literal value :: more) ahead rest ↔
      ∃ offset behind,
        ahead = { kind := value.kind.kind, text := value.text, offset } :: behind ∧
          lines.lineAt offset = row ∧
            Placed lines (row + value.text.toList.count '\n') more behind rest :=
  Iff.rfl

@[simp] theorem placed_blank :
    Placed lines row (.blank :: more) ahead rest ↔ Placed lines row more ahead rest :=
  Iff.rfl

@[simp] theorem placed_line :
    Placed lines row (.line :: more) ahead rest ↔ Placed lines (row + 1) more ahead rest :=
  Iff.rfl

@[simp] theorem placed_indent :
    Placed lines row (.indent :: more) ahead rest ↔ Placed lines row more ahead rest :=
  Iff.rfl

@[simp] theorem placed_dedent :
    Placed lines row (.dedent :: more) ahead rest ↔ Placed lines row more ahead rest :=
  Iff.rfl

theorem placed_append :
    Placed lines row (left ++ right) ahead rest ↔
      ∃ middle, Placed lines row left ahead middle ∧
        Placed lines (row + breaksIn left) right middle rest := by
  induction left generalizing row ahead with
  | nil => simp
  | cons piece left ih =>
      simp only [List.cons_append, Placed, breaksIn_cons, ← Nat.add_assoc]
      split
      · simp only [ih]
        constructor
        · rintro ⟨offset, behind, rfl, here, middle, first, second⟩
          exact ⟨middle, ⟨offset, behind, rfl, here, first⟩, second⟩
        · rintro ⟨middle, ⟨offset, behind, rfl, here, first⟩, second⟩
          exact ⟨offset, behind, rfl, here, middle, first, second⟩
      · exact ih

end

/-! ## Scanning -/

theorem scanFrom_separator {c : Char} {text : List Char} {offset : Nat}
    (separator : Token.isSeparator c = true) :
    scanFrom (c :: text) offset = scanFrom text (offset + c.utf8Size) := by
  rw [scanFrom, if_pos separator]

theorem scanFrom_tabs (depth : Nat) (text : List Char) (offset : Nat) :
    scanFrom (List.replicate depth '\t' ++ text) offset =
      scanFrom text (offset + byteLength (List.replicate depth '\t')) := by
  induction depth generalizing offset with
  | zero => rfl
  | succ depth ih =>
      rw [List.replicate_succ, List.cons_append, scanFrom_separator rfl, ih, Nat.add_assoc]
      rfl

/-- Before a character that does not go on with it a lexeme is the first token. -/
theorem scanFrom_lexeme {kind : Kind} {piece behind : List Char} {offset : Nat}
    (lexeme : Lexeme kind piece) (stops : ∀ c ∈ behind.head?, goesOn kind c = false) :
    scanFrom (piece ++ behind) offset =
      { kind, text := String.ofList piece, offset } ::
        scanFrom behind (offset + byteLength piece) := by
  have cut := lexeme.headToken stops
  obtain ⟨c, rest, rfl, opens⟩ := lexeme.opens
  have noSeparator := Token.isSeparator_of_opensWith opens
  rw [List.cons_append] at cut ⊢
  rw [scanFrom, if_neg (by simp [noSeparator]), cut]
  simp

theorem headToken_newline (text : List Char) : headToken ('\n' :: text) = (.newline, 1) := by
  have covered : Token.covering? Token.shapes ['\n'] = some .newline := by decide
  have bound : ∀ longer, Token.Fits Token.shapes (['\n'] ++ text) longer →
      longer.length ≤ ['\n'].length := by
    rintro longer ⟨shape, listed, member, begins⟩
    cases longer with
    | nil => exact Nat.zero_le _
    | cons c longer =>
        obtain ⟨rfl, -⟩ := List.cons_prefix_cons.1 begins
        have looks := Token.looks_of_mem listed member
        generalize whole : '\n' :: longer = piece, shape.1 = kind at looks
        cases looks with
        | newline => exact Nat.le_refl _
        | name named _ => simp [← whole] at named; exact absurd named (by decide)
        | number _ digits _ =>
            simp [← whole, Token.beginsNumber] at digits
            exact absurd digits (by decide)
        | quoted isQuote _ =>
            obtain ⟨rfl, -⟩ := List.cons.inj whole
            simpa using (Token.quotes_foreign _ isQuote).2.2.1
        | fixed isFixed =>
            have heads : ∀ kind ∈ fixedKinds, kind.spelling.toList.head? ≠ some '\n' := by
              decide
            exact absurd (by rw [← whole]; rfl) (heads _ isFixed)
        | _ => simp at whole
  have cut := Token.longestShape?_of_covering? covered bound
  rw [headToken, List.head?_cons, Option.elim_some, Token.longestShape?_shapesAt]
  rw [List.singleton_append] at cut
  rw [cut]
  rfl

theorem scanFrom_newline (text : List Char) (offset : Nat) :
    scanFrom ('\n' :: text) offset =
      { kind := .newline, text := "\n", offset } :: scanFrom text (offset + 1) := by
  rw [scanFrom, if_neg (by decide), headToken_newline]
  rfl

theorem words_newline {stop : Nat} (pending : Bool) (text : List Char) (offset : Nat) :
    words stop pending (scanFrom ('\n' :: text) offset) =
      (if pending then [Lexed.insertedSemicolon "\n" offset] else []) ++
        words stop false (scanFrom text (offset + 1)) := by
  rw [scanFrom_newline]
  cases pending <;> rfl

theorem chars_blank (depth : Nat) (rest : List Piece) :
    chars depth (.blank :: rest) = ' ' :: chars depth rest := by
  simp [chars, Piece.text, depthAfter]

theorem chars_line (depth : Nat) (rest : List Piece) :
    chars depth (.line :: rest) =
      '\n' :: (List.replicate depth '\t' ++ chars depth rest) := by
  simp [chars, Piece.text, depthAfter]

theorem word?_text {piece : Piece} {kind : Kind} {text : String}
    (isWord : piece.word? = some (kind, text)) (depth : Nat) :
    piece.text depth = text ∧ piece.depthAfter depth = depth ∧
      piece.breaks = text.toList.count '\n' := by
  cases piece with
  | mark kind =>
      cases isWord
      exact ⟨rfl, rfl, by cases kind <;> decide⟩
  | name occurrence => cases isWord; exact ⟨rfl, rfl, rfl⟩
  | literal value => cases isWord; exact ⟨rfl, rfl, rfl⟩
  | _ => cases isWord

variable {text : String} {stop depth : Nat} {before behind : List Char}

theorem comments_cons_word {kind : Kind} {text : String} {offset : Nat} {tokens : List Token}
    (word : kind.isTrivia = false) :
    (⟨kind, text, offset⟩ :: tokens).filter isComment = tokens.filter isComment := by
  cases kind <;> first | rfl | cases word

/-- What a legible layout is scanned to: words, and no comment. -/
theorem Legible.scan {pen final : Pen} {pieces : List Piece} (legible : Legible pen pieces final)
    (whole : text.toList = before ++ (chars depth pieces ++ behind))
    (stops : final.glued = true → ∀ c ∈ behind.head?, goesOn final.last c = false) :
    (pen.glued = true → ∀ c ∈ (chars depth pieces ++ behind).head?, goesOn pen.last c = false) ∧
      Placed (.ofText text) (before.count '\n' + 1) pieces
        (words stop pen.last.endsStatement
          (scanFrom (chars depth pieces ++ behind) (byteLength before)))
        (words stop final.last.endsStatement
          (scanFrom behind (byteLength (before ++ chars depth pieces)))) ∧
      (scanFrom (chars depth pieces ++ behind) (byteLength before)).filter isComment =
        (scanFrom behind (byteLength (before ++ chars depth pieces))).filter isComment := by
  induction legible generalizing depth before with
  | nil =>
      rw [chars, List.append_nil, List.nil_append]
      exact ⟨stops, rfl, rfl⟩
  | @word pen final piece rest kind text isWord lexeme joins _ ih =>
      obtain ⟨written, sameDepth, breaks⟩ := word?_text isWord depth
      have split : chars depth (piece :: rest) = text.toList ++ chars depth rest := by
        rw [chars, written, sameDepth]
      rw [split] at whole ⊢
      obtain ⟨apart, placed, silent⟩ := @ih depth (before ++ text.toList) (by simp [whole]) stops
      refine ⟨?_, ?_, ?_⟩
      · intro glued c first
        obtain ⟨d, others, spelled, opens⟩ := lexeme.opens
        simp only [spelled, List.cons_append, List.head?_cons, Option.mem_some_iff] at first
        exact joins glued c (first ▸ opens)
      · rw [List.append_assoc, scanFrom_lexeme lexeme (apart rfl), words,
          if_neg (by simp [lexeme.word]), Placed, isWord]
        refine ⟨_, _, by rw [String.ofList_toList], LineIndex.lineAt_ofText whole, ?_⟩
        rw [breaks]
        simpa [List.count_append, Token.byteLength_append, Nat.add_right_comm] using placed
      · rw [List.append_assoc, scanFrom_lexeme lexeme (apart rfl), comments_cons_word lexeme.word]
        simpa [Token.byteLength_append] using silent
  | @blank pen final rest _ ih =>
      rw [chars_blank] at whole ⊢
      obtain ⟨-, placed, silent⟩ := @ih depth (before ++ [' ']) (by simp [whole]) stops
      have start : byteLength (before ++ [' ']) = byteLength before + ' '.utf8Size :=
        Token.byteLength_append ..
      refine ⟨?_, ?_, ?_⟩
      · intro _ c first
        obtain rfl : ' ' = c := by simpa using first
        exact Token.goesOn_blank (by simp)
      · rw [List.cons_append, scanFrom_separator rfl, ← start]
        simpa [List.count_append] using placed
      · rw [List.cons_append, scanFrom_separator rfl, ← start]
        simpa using silent
  | @line pen final rest goesOn _ ih =>
      rw [chars_line] at whole ⊢
      obtain ⟨-, placed, silent⟩ := @ih depth (before ++ '\n' :: List.replicate depth '\t')
        (by simp [whole]) stops
      have start : byteLength (before ++ '\n' :: List.replicate depth '\t') =
          byteLength before + 1 + byteLength (List.replicate depth '\t') := by
        rw [Token.byteLength_append, Token.byteLength_cons, Nat.add_assoc]
        rfl
      refine ⟨?_, ?_, ?_⟩
      · intro _ c first
        obtain rfl : '\n' = c := by simpa using first
        exact Token.goesOn_blank (by simp)
      · rw [goesOn, start] at placed
        rw [goesOn, List.cons_append, List.append_assoc, words_newline, scanFrom_tabs, placed_line]
        simpa [List.count_append, List.count_replicate] using placed
      · rw [start] at silent
        rw [List.cons_append, List.append_assoc, scanFrom_newline,
          List.filter_cons_of_neg (by simp [isComment]), scanFrom_tabs]
        simpa using silent
  | indent _ ih => exact ih whole stops
  | dedent _ ih => exact ih whole stops

end Piece

end GoMend
