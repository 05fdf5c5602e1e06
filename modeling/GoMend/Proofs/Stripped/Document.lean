import GoMend.Grammar.Reading
import GoMend.Proofs.Stripped.Declarations

/-!
# Texts read side by side

Two texts with the same words are read alike, however they are laid out and commented.
-/

namespace GoMend

open GoMend.Parser
open ParserState (Alongside Level)

variable {start start' : ParserState}

/-- Each production agrees if the productions below it do. -/
theorem Production.agrees_body {below : Reader} (reads : below.Agrees start start') :
    ∀ production : Production, Parser.Agrees start start' (SameBy production.stripped)
      (production.body below) (production.body below)
  | .binary floor => Grammar.agrees_binary reads floor
  | .binaryTail floor _ => Grammar.agrees_binaryTail reads floor rfl
  | .unary => Grammar.agrees_unary reads
  | .primaryTail _ => Grammar.agrees_primaryTail reads rfl
  | .exprTail => Grammar.agrees_exprTail reads
  | .arguments => Grammar.agrees_arguments reads
  | .elements => Grammar.agrees_elements reads
  | .element => Grammar.agrees_element reads
  | .type => Grammar.agrees_type reads
  | .params => Grammar.agrees_params reads
  | .structFields => Grammar.agrees_structFields reads
  | .interfaceMembers => Grammar.agrees_interfaceMembers reads
  | .block => Grammar.agrees_block reads
  | .stmts => Grammar.agrees_stmts reads
  | .stmt => Grammar.agrees_stmt reads
  | .conditional => Grammar.agrees_conditional reads
  | .caseClauses => Grammar.agrees_caseClauses reads
  | .commClauses => Grammar.agrees_commClauses reads
  | .identTail => Grammar.agrees_identTail reads
  | .specs keyword => Grammar.agrees_specs reads keyword
  | .imports => Grammar.agrees_imports reads
  | .decls => Grammar.agrees_decls reads

/-- Under any bound on their nesting the productions agree. -/
theorem Production.agrees_read (bound : Nat) : (Production.read bound).Agrees start start' := by
  induction bound with
  | zero =>
      exact ⟨fun _ => agrees_fail _, fun _ _ _ _ => agrees_fail _, fun _ => agrees_fail _⟩
  | succ bound ih =>
      exact ⟨Production.agrees_body ih,
        fun floor _ _ same => Grammar.agrees_binaryTail ih floor same,
        fun same => Grammar.agrees_primaryTail ih same⟩

namespace ParserState

/-- Before anything is read, texts with the same words lie side by side. -/
theorem alongside_ofText {text text' : String} (words : List.Forall₂ Token.Alike
    (Lexed.ofText text).tokens (Lexed.ofText text').tokens) :
    Alongside (ofText text) (ofText text') (ofText text) (ofText text') :=
  ⟨words, ⟨0, Nat.zero_le _, rfl, rfl⟩, rfl, rfl, rfl⟩

end ParserState

namespace File

/-- Layout and comments decide nothing: two texts with the same words are either both read, as
files that are the same when stripped, or both refused, with one message and at the same word. -/
theorem parse_alike {text text' : String} (words : List.Forall₂ Token.Alike
    (Lexed.ofText text).tokens (Lexed.ofText text').tokens) :
    (∃ file file', parse text = .ok file ∧ parse text' = .ok file' ∧
      file.stripped = file'.stripped) ∨
    ∃ error error', parse text = .error error ∧ parse text' = .error error' ∧
      error.message = error'.message ∧ ∃ index ≤ (Lexed.ofText text).tokens.length,
        error.offset = (ParserState.ofText text).offsetAt index ∧
        error'.offset = (ParserState.ofText text').offsetAt index := by
  -- both sides nest equally deeply, so one reader serves them
  have bound : nestingBound (ParserState.ofText text').ahead.length =
      nestingBound (ParserState.ofText text).ahead.length :=
    congrArg nestingBound words.length_eq.symm
  simp only [parse, bound]
  have ends := Grammar.agrees_file (Production.agrees_read
    (nestingBound (ParserState.ofText text).ahead.length)) (ParserState.alongside_ofText words)
  revert ends
  generalize Grammar.file _ (ParserState.ofText text) = final,
    Grammar.file _ (ParserState.ofText text') = final'
  intro ends
  cases ends with
  | ok same _ => exact .inl ⟨_, _, rfl, rfl, same⟩
  | error fails _ =>
      exact .inr ⟨_, _, rfl, rfl, congrArg SyntaxFault.message fails.fault, fails.offset⟩

/-- A text laid out over several lines, with a comment. -/
def spacious : String :=
  "package a\n\n// f counts.\nfunc f() \x7b\n\tx := T\x7b\n\t\t1,\n\t\x7d // one\n\x7d\n"

/-- The words of the text on one line. -/
def dense : String :=
  "package a; func f() \x7b x := T\x7b 1, \x7d; \x7d;"

theorem parse_alike_dense :
    List.Forall₂ Token.Alike (Lexed.ofText spacious).tokens (Lexed.ofText dense).tokens ∧
      ((∃ file file', parse spacious = .ok file ∧ parse dense = .ok file' ∧
          file.stripped = file'.stripped) ∨
        ∃ error error', parse spacious = .error error ∧ parse dense = .error error' ∧
          error.message = error'.message ∧ ∃ index ≤ (Lexed.ofText spacious).tokens.length,
            error.offset = (ParserState.ofText spacious).offsetAt index ∧
            error'.offset = (ParserState.ofText dense).offsetAt index) := by
  have words : List.Forall₂ Token.Alike (Lexed.ofText spacious).tokens
      (Lexed.ofText dense).tokens := by
    rw [List.forall₂_iff_zip]
    have zipped : (Lexed.ofText spacious).tokens.length = (Lexed.ofText dense).tokens.length ∧
        ((Lexed.ofText spacious).tokens.zip (Lexed.ofText dense).tokens).all fun (token, other) =>
          token.kind = other.kind ∧ (token.kind = .semicolon ∨ token.text = other.text) := by
      decide +kernel
    refine ⟨zipped.1, fun member => ?_⟩
    have alike := List.all_eq_true.1 zipped.2 _ member
    obtain ⟨kind, spelling⟩ := of_decide_eq_true alike
    exact ⟨kind, spelling⟩
  exact ⟨words, parse_alike words⟩

end File

end GoMend
