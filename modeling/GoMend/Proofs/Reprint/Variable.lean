import GoMend.Proofs.Reprint.Rereading

/-!
# A file with one variable

A file that declares a variable with a value, and nothing else, is read back if the value is
shaped: its layout is legible, so the file is scanned to the words of the layout, and the grammar
reads them.  Comments may stand on lines of their own before it.
-/

namespace GoMend

open Lexed (headKind isComment words)
open Piece (Placed Legible chars wordsIn placed_append)
open Production (read)
open Rereading (cost)
open Token (Lexeme scanFrom goesOn byteLength)

namespace Piece

variable {lines : LineIndex} {text : String} {row : Nat} {pieces clause body : List Piece}
  {ahead rest opening : List Token} {last other : Kind} {before behind : List Char}

/-- The words of a layout stand before the rest. -/
theorem length_of_placed (placed : Placed lines row pieces ahead rest) :
    ahead.length = wordsIn pieces + rest.length := by
  induction pieces generalizing row ahead with
  | nil => simp [show ahead = rest from placed]
  | cons piece pieces ih =>
      cases isWord : piece.word? with
      | none =>
          rw [Placed, isWord] at placed
          rw [ih placed, wordsIn, wordsIn, List.filterMap_cons_none isWord]
      | some word =>
          rw [Placed, isWord] at placed
          obtain ⟨offset, behind, rfl, -, placed⟩ := placed
          rw [List.length_cons, ih placed, wordsIn, wordsIn, List.filterMap_cons_some isWord,
            List.length_cons, Nat.add_right_comm]

/-- Words do not depend on the tokens before them that are none. -/
theorem words_trivia {stop : Nat} (trivia : ∀ token ∈ opening, token.kind.isTrivia = true)
    (tokens : List Token) : words stop false (opening ++ tokens) = words stop false tokens := by
  induction opening with
  | nil => rfl
  | cons token opening ih =>
      obtain ⟨first, others⟩ := List.forall_mem_cons.1 trivia
      rw [List.cons_append, words, if_pos first, Bool.false_and, if_neg Bool.false_ne_true,
        ih others]

/-- The end of a text, or of its last line. -/
inductive Blank : List Char → Prop
  | stop : Blank []
  | line (depth : Nat) : Blank ('\n' :: List.replicate depth '\t')

/-- At the end a statement ends. -/
theorem words_end (stop offset : Nat) (blank : Blank behind) :
    (∃ semicolon, semicolon.kind = .semicolon ∧
      words stop true (scanFrom behind offset) = [semicolon]) ∧
        (scanFrom behind offset).filter isComment = [] := by
  cases blank with
  | stop =>
      rw [scanFrom]
      exact ⟨⟨_, rfl, rfl⟩, rfl⟩
  | line depth =>
      have tabs := scanFrom_tabs depth [] (offset + 1)
      rw [List.append_nil, scanFrom] at tabs
      rw [scanFrom_newline, tabs]
      exact ⟨⟨_, rfl, rfl⟩, rfl⟩

/-- What a text is scanned to that has two parts on lines of their own, with an empty line
between them, behind what holds no words. -/
theorem Legible.scan_parts
    (whole : text.toList =
      before ++ (chars 0 clause ++ '\n' :: '\n' :: (chars 0 body ++ behind)))
    (opens : scanFrom text.toList 0 = opening ++
      scanFrom (chars 0 clause ++ '\n' :: '\n' :: (chars 0 body ++ behind)) (byteLength before))
    (trivia : ∀ token ∈ opening, token.kind.isTrivia = true)
    (first : Legible ⟨.comma, false⟩ clause ⟨last, true⟩)
    (second : Legible ⟨.comma, false⟩ body ⟨other, true⟩)
    (ends : last.endsStatement = true) (otherEnds : other.endsStatement = true)
    (blank : Blank behind) :
    (Lexed.ofText text).comments = opening.filter isComment ∧
      ∃ firstEnd lastEnd middle row, firstEnd.kind = .semicolon ∧ lastEnd.kind = .semicolon ∧
        Placed (.ofText text) (before.count '\n' + 1) clause (Lexed.ofText text).tokens
          (firstEnd :: middle) ∧
        Placed (.ofText text) row body middle [lastEnd] := by
  have split : text.toList =
      (before ++ chars 0 clause ++ ['\n', '\n']) ++ (chars 0 body ++ behind) := by
    simp [whole]
  have clauseEnds : ∀ c ∈ ('\n' :: '\n' :: (chars 0 body ++ behind)).head?,
      goesOn last c = false := by
    rintro c ⟨⟩
    exact Token.goesOn_blank (by simp)
  have bodyEnds : ∀ c ∈ behind.head?, goesOn other c = false := by
    cases blank with
    | stop => nofun
    | line depth =>
        rintro c ⟨⟩
        exact Token.goesOn_blank (by simp)
  obtain ⟨-, clausePlaced, clauseSilent⟩ := @Legible.scan text text.utf8ByteSize 0 before _ _ _ _
    first whole fun _ => clauseEnds
  obtain ⟨-, bodyPlaced, bodySilent⟩ := @Legible.scan text text.utf8ByteSize 0 _ _ _ _ _
    second split fun _ => bodyEnds
  obtain ⟨⟨lastEnd, lastEnds, isEnd⟩, endSilent⟩ := words_end text.utf8ByteSize
    (byteLength (before ++ chars 0 clause ++ ['\n', '\n'] ++ chars 0 body)) blank
  have start : byteLength (before ++ chars 0 clause ++ ['\n', '\n']) =
      byteLength (before ++ chars 0 clause) + 1 + 1 :=
    Token.byteLength_append ..
  constructor
  · have isBreak : ∀ offset tokens,
        List.filter isComment (⟨.newline, "\n", offset⟩ :: tokens) = tokens.filter isComment :=
      fun _ _ => rfl
    show (scanFrom text.toList 0).filter isComment = _
    rw [opens, List.filter_append, clauseSilent, scanFrom_newline, scanFrom_newline, isBreak,
      isBreak, ← start, bodySilent, endSilent, List.append_nil]
  · have tokens : (Lexed.ofText text).tokens =
        words text.utf8ByteSize false (scanFrom text.toList 0) := rfl
    rw [words_newline, words_newline, ends, ← start] at clausePlaced
    rw [otherEnds, isEnd] at bodyPlaced
    rw [tokens, opens, words_trivia trivia]
    exact ⟨_, lastEnd, _, _, rfl, lastEnds, clausePlaced, bodyPlaced⟩

end Piece

namespace Reprint

/-! ## The layout -/

/-- The package clause of a file. -/
def package (name : Ident) : List Piece :=
  [.mark .packageKw, .blank, .name name]

/-- The words before the value of a variable. -/
def opening (name : Ident) : List Piece :=
  [.mark .varKw, .blank, .name name, .blank, .mark .eq, .blank]

/-- A variable with its value. -/
def entry (name : Ident) (value : Expr) : ValueSpec where
  doc := []
  names := [name]
  type := none
  values := [value]
  comment := none

/-- A variable that is declared on its own. -/
def declaration (name : Ident) (value : Expr) : GenDecl where
  doc := []
  keyword := .vars
  grouped := false
  specs := [.value (entry name value)]
  offset := none

/-- A file that declares a variable and nothing else. -/
def file (doc : List Comment) (package name : Ident) (value : Expr) : File where
  doc := doc
  package := package
  decls := [.gen (declaration name value)]
  trailing := []

/-- The layout of the file. -/
theorem pieces_file (doc : List Comment) (clauseName name : Ident) (value : Expr) :
    (file doc clauseName name value).pieces = Piece.doc doc ++ (package clauseName ++
      ([Piece.line, .line] ++ ((opening name ++ value.pieces) ++ [Piece.line]))) := by
  have list : Expr.listPieces [value] = value.pieces := by
    rw [Expr.listPieces_cons, Expr.tailPieces_nil, List.append_nil]
  have declared : (declaration name value).pieces = opening name ++ value.pieces := by
    show Piece.mark .varKw :: .blank :: (entry name value).pieces = _
    rw [entry, ValueSpec.pieces_mk, list]
    simp [Piece.doc, Piece.names, Piece.separated, Piece.trailing, opening]
  simp [File.pieces, file, Decl.pieces, declared, package]

variable {lines : LineIndex} {row bodyRow bound : Nat} {ahead middle : List Token}
  {clauseName name : Ident} {value : Expr} {firstEnd lastEnd : Token}

theorem package_legible (lexeme : Lexeme .identifier clauseName.name.toList) :
    Legible ⟨.comma, false⟩ (package clauseName) ⟨.identifier, true⟩ :=
  .mark (by decide) nofun (.blank (.word rfl lexeme nofun .nil))

theorem value_legible (lexeme : Lexeme .identifier name.name.toList)
    (shaped : Shaped (.binary 1) value) :
    ∃ last, last.endsStatement = true ∧
      Legible ⟨.comma, false⟩ (opening name ++ value.pieces) ⟨last, true⟩ := by
  obtain ⟨last, ends, -, legible⟩ := shaped.writes ⟨.eq, false⟩ nofun
  have endStatements : ∀ kind ∈ Form.numbers ++ Form.closers, kind.endsStatement = true := by
    decide
  refine ⟨last, endStatements last ends, .mark (by decide) nofun (.blank ?_)⟩
  refine .word rfl lexeme nofun (.blank ?_)
  exact .mark (by decide) nofun (.blank legible)

/-! ## Reading the words -/

/-- Without a comma ahead a list of names ends. -/
theorem identTail_rereads (noComma : headKind ahead ≠ .comma) (enough : 0 < bound) :
    Rereads lines 0 (read bound .identTail) ahead (· = []) ahead :=
  Rereading.run enough fun _ _ => .unlessEat noComma (.pure rfl)

/-- Without a comma ahead a list of expressions ends. -/
theorem exprTail_rereads (noComma : headKind ahead ≠ .comma) (enough : 0 < bound) :
    Rereads lines 0 (read bound .exprTail) ahead (· = []) ahead :=
  Rereading.run enough fun _ _ => .unlessEat noComma (.pure rfl)

/-- A name without a comma behind it is read as the only one. -/
theorem identList_rereads (noComma : headKind ahead ≠ .comma) (enough : 0 < bound) (offset : Nat) :
    Rereads lines 0 (Grammar.identList (read bound)) (⟨.identifier, name.name, offset⟩ :: ahead)
      (· = [⟨name.name, some offset⟩]) ahead := by
  refine .ident rfl (.bind _ (identTail_rereads noComma enough) ?_)
  rintro _ rfl
  exact .pure rfl

/-- The value is read as the only one. -/
theorem exprList_rereads (shaped : Shaped (.binary 1) value)
    (placed : Placed lines row value.pieces ahead [lastEnd])
    (ends : lastEnd.kind = .semicolon) (enough : cost value + 6 ≤ bound) :
    Rereads lines 0 (Grammar.exprList (read bound)) ahead
      (fun values => Expr.unplacedAll values = Expr.unplacedAll [value]) [lastEnd] := by
  have closes : headKind [lastEnd] ∈ Rereading.closings := by
    rw [headKind, ends]
    decide
  have noComma : headKind [lastEnd] ≠ .comma := by simp [headKind, ends]
  have valueRead := Rereading.closed shaped.rereads (Int.le_refl 0) placed closes enough
  refine .bind _ valueRead fun again same =>
    .bind _ (exprTail_rereads noComma (by omega)) ?_
  rintro _ rfl
  refine .pure ?_
  rw [Expr.unplacedAll_cons, Expr.unplacedAll_cons, same]

/-- The name and the value are read as an entry. -/
theorem valueSpec_rereads (shaped : Shaped (.binary 1) value)
    (placed : Placed lines row value.pieces ahead [lastEnd])
    (ends : lastEnd.kind = .semicolon) (enough : cost value + 6 ≤ bound)
    (nameOffset eqOffset : Nat) :
    Rereads lines 0 (Grammar.valueSpec (read bound) [])
      (⟨.identifier, name.name, nameOffset⟩ :: ⟨.eq, Kind.eq.spelling, eqOffset⟩ :: ahead)
      (·.unplaced = (entry name value).unplaced) [lastEnd] := by
  refine .bind _ (identList_rereads (by rintro ⟨⟩) (by omega) nameOffset) ?_
  rintro _ rfl
  refine .ifAny List.mem_cons_self (.known (.ifEat rfl ?_))
  refine .bind _ (exprList_rereads shaped placed ends enough) fun values same => ?_
  refine .trailing (.pure ?_)
  simp [ValueSpec.unplaced, entry, Ident.unplaced, same]

/-- The declaration of the variable is read. -/
theorem genDecl_rereads (shaped : Shaped (.binary 1) value)
    (placed : Placed lines row (opening name ++ value.pieces) ahead [lastEnd])
    (ends : lastEnd.kind = .semicolon) (enough : cost value + 6 ≤ bound) :
    Rereads lines 0 (Grammar.genDecl (read bound) .vars []) ahead
      (·.unplaced = (declaration name value).unplaced) [lastEnd] := by
  obtain ⟨offset, _, rfl, -, nameOffset, _, rfl, -, eqOffset, inside, rfl, -, placed⟩ := placed
  have spec : Rereads lines 0 (Grammar.spec (read bound) .vars [])
      (⟨.identifier, name.name, nameOffset⟩ :: ⟨.eq, Kind.eq.spelling, eqOffset⟩ :: inside)
      (·.unplaced = .value (entry name value).unplaced) [lastEnd] :=
    .bind _ (valueSpec_rereads shaped placed ends enough nameOffset eqOffset) fun _ same =>
      .pure (congrArg Spec.value same)
  refine .bump (.unlessEat (by rintro ⟨⟩) (.bind _ spec fun only same => .pure ?_))
  show GenDecl.mk [] .vars false [only.unplaced] none = _
  rw [same]
  rfl

/-- Comments on earlier lines than the next word are the ones before it. -/
theorem takeDoc_early {comments : List Token} {token : Token} {stop : Nat} {level : Int}
    (early : ∀ comment ∈ comments, lines.lineAt comment.offset < lines.lineAt token.offset) :
    Parser.takeDoc ⟨token :: ahead, comments, stop, level, lines⟩ =
      .ok (comments.map Parser.toComment) ⟨token :: ahead, [], stop, level, lines⟩ := by
  have before : ∀ comment ∈ comments, comment.offset < token.offset := by
    intro comment member
    by_contra later
    exact absurd (early comment member)
      (Nat.not_lt.2 (LineIndex.lineAt_mono (Nat.le_of_not_lt later)))
  have taken : comments.takeWhile (·.offset < token.offset) = comments := by
    simpa using before
  have left : comments.dropWhile (·.offset < token.offset) = [] := by
    simpa using before
  show EStateM.Result.ok ((comments.takeWhile (·.offset < token.offset)).map Parser.toComment)
    (ParserState.mk (token :: ahead) (comments.dropWhile (·.offset < token.offset)) stop level
      lines) = _
  rw [taken, left]

/-- The declarations of the file are read. -/
theorem decls_rereads (shaped : Shaped (.binary 1) value)
    (placed : Placed lines row (opening name ++ value.pieces) middle [lastEnd])
    (lastEnds : lastEnd.kind = .semicolon) (enough : cost value + 8 ≤ bound) :
    Rereads lines 0 (read bound .decls) middle
      (fun decls => ∃ group, decls = [.gen group] ∧
        group.unplaced = (declaration name value).unplaced) [] := by
  have here : headKind middle = .varKw := Rereading.headKind_of_placed placed rfl
  refine Rereading.run (by omega) fun less isLess => .unlessAt (by simp [here]) (.doc ?_)
  have decl : Rereads lines 0 (Grammar.decl (read less) []) middle
      (fun decl => ∃ group, decl = .gen group ∧
        group.unplaced = (declaration name value).unplaced) [lastEnd] :=
    .peekAt here (.bind _ (genDecl_rereads shaped placed lastEnds (by omega)) fun group same =>
      .pure ⟨group, rfl, same⟩)
  have noMore : Rereads lines 0 (read less .decls) [] (· = []) [] :=
    Rereading.run (by omega) fun _ _ => .ifAt rfl (.pure rfl)
  refine .bind _ decl ?_
  rintro _ ⟨group, rfl, same⟩
  refine .semicolon lastEnds (.bind _ noMore ?_)
  rintro _ rfl
  exact .pure ⟨group, rfl, same⟩

/-- The file is read, with the comments on the lines before it. -/
theorem file_ends {comments : List Token} {stop : Nat}
    (early : ∀ comment ∈ comments, lines.lineAt comment.offset < row)
    (shaped : Shaped (.binary 1) value)
    (clause : Placed lines row (package clauseName) ahead (firstEnd :: middle))
    (placed : Placed lines bodyRow (opening name ++ value.pieces) middle [lastEnd])
    (firstEnds : firstEnd.kind = .semicolon) (lastEnds : lastEnd.kind = .semicolon)
    (enough : cost value + 8 ≤ bound) :
    (Grammar.file (read bound)).Ends ⟨ahead, comments, stop, 0, lines⟩
      (fun again _ => again.unplaced =
        (file (comments.map Parser.toComment) clauseName name value).unplaced)
      fun _ _ => False := by
  obtain ⟨offset, _, rfl, onRow, nameOffset, _, rfl, -, rfl⟩ := clause
  have here : headKind middle = .varKw := Rereading.headKind_of_placed placed rfl
  have imports : Rereads lines 0 (read bound .imports) middle (· = []) middle :=
    Rereading.run (by omega) fun _ _ => .unlessAt (by simp [here]) (.pure rfl)
  have behind : ∀ doc, Rereads lines 0 (do
        let _ ← Parser.expect .packageKw
        let package ← Parser.ident
        Parser.expectSemicolon
        let imports ← read bound .imports
        let decls ← read bound .decls
        let trailing ← Parser.takeRemaining
        return ({ doc, package, decls := imports ++ decls, trailing } : File))
      (⟨.packageKw, Kind.packageKw.spelling, offset⟩ ::
        ⟨.identifier, clauseName.name, nameOffset⟩ :: firstEnd :: middle)
      (fun again => again.unplaced = (file doc clauseName name value).unplaced) [] := by
    intro doc
    refine .expect rfl (.ident rfl (.semicolon firstEnds (.bind _ imports ?_)))
    rintro _ rfl
    refine .bind _ (decls_rereads shaped placed lastEnds enough) ?_
    rintro _ ⟨group, rfl, same⟩
    refine .remaining (.pure ?_)
    simp [File.unplaced, file, Decl.unplaced, Ident.unplaced, same]
  rw [Grammar.file, Parser.ends_bind, Parser.Ends, takeDoc_early (by simpa [onRow] using early)]
  exact (behind _ stop).mono (fun _ _ ends => ends.1) fun _ _ => id

end Reprint

namespace File

open Reprint (package_legible value_legible file_ends)
open Piece (Blank)

variable {text : String} {before behind : List Char} {remarks : List Token}
  {clauseName name : Ident} {value : Expr}

/-- A text of a package clause and a variable is read as the file that declares the variable, if
its value is shaped.  Before it nothing but comments may stand, each of them on lines of its
own. -/
theorem parse_variable
    (whole : text.toList = before ++ (chars 0 (Reprint.package clauseName) ++ '\n' :: '\n' ::
      (chars 0 (Reprint.opening name ++ value.pieces) ++ behind)))
    (opens : scanFrom text.toList 0 = remarks ++
      scanFrom (chars 0 (Reprint.package clauseName) ++ '\n' :: '\n' ::
        (chars 0 (Reprint.opening name ++ value.pieces) ++ behind)) (byteLength before))
    (trivia : ∀ token ∈ remarks, token.kind.isTrivia = true)
    (early : ∀ token ∈ remarks.filter isComment,
      (LineIndex.ofText text).lineAt token.offset < before.count '\n' + 1)
    (blank : Blank behind)
    (clauseLexeme : Lexeme .identifier clauseName.name.toList)
    (lexeme : Lexeme .identifier name.name.toList) (shaped : Shaped (.binary 1) value) :
    ∃ again, File.parse text = .ok again ∧ again.unplaced =
      (Reprint.file ((remarks.filter isComment).map Parser.toComment) clauseName name
        value).unplaced := by
  obtain ⟨last, ends, legible⟩ := value_legible lexeme shaped
  obtain ⟨comments, firstEnd, lastEnd, middle, row, firstEnds, lastEnds, clause, placed⟩ :=
    (package_legible clauseLexeme).scan_parts whole opens trivia legible rfl ends blank
  have size : cost value + 8 ≤ nestingBound (Lexed.ofText text).tokens.length := by
    have words := Piece.length_of_placed clause
    rw [List.length_cons, Piece.length_of_placed placed, Piece.wordsIn_append] at words
    rw [nestingBound, words, cost]
    omega
  have early : ∀ comment ∈ (Lexed.ofText text).comments,
      (LineIndex.ofText text).lineAt comment.offset < before.count '\n' + 1 := by
    rwa [comments]
  have read := @file_ends _ _ _ _ _ _ _ _ _ _ _ _ 0 early shaped clause placed firstEnds lastEnds
    size
  unfold Parser.Ends at read
  split at read
  · rename_i again final ran
    refine ⟨again, ?_, comments ▸ read⟩
    have ran : Grammar.file (Production.read (nestingBound (ParserState.ofText text).ahead.length))
        (ParserState.ofText text) = .ok again final := ran
    simp only [File.parse, ran]
  · exact read.elim

end File

end GoMend
