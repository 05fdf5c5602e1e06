import GoMend.Proofs.Grammar.Outcome
import GoMend.Proofs.Syntax.Idents
import GoMend.Proofs.Token.Names

/-!
# Names passed by a parser

A parser only takes words off the front.  `Reads` relates the words before a step to
those after it by the names that the step has passed; steps compose by appending
these, so the whole grammar keeps the names of a text if each production does.
-/

namespace GoMend

/-- Whether no word of the category spells a name, whatever follows it. -/
def Kind.isNameless (kind : Kind) : Bool :=
  kind != .identifier && kind != .dot

namespace Lexed

/-- What the scanner promises about the spelling of words: an identifier holds no
dot, a dot is spelled as such, and none of them marks the end of the text. -/
def WellSpelled (words : List Token) : Prop :=
  ∀ token ∈ words, (token.kind = .identifier → token.toIdent.IsPlain) ∧
    (token.kind = .dot → token.text = ".") ∧ token.kind ≠ .endOfFile

theorem WellSpelled.tail {token : Token} {rest : List Token}
    (wellSpelled : WellSpelled (token :: rest)) : WellSpelled rest :=
  fun other member => wellSpelled other (List.mem_cons_of_mem _ member)

/-- Between two lists of words stand exactly the given names.  Unless dots are
allowed, all of them are plain. -/
def Reads (dots : Bool) (words : List Token) (read : List Ident) (rest : List Token) :
    Prop :=
  WellSpelled words →
    WellSpelled rest ∧ idents words = read ++ idents rest ∧
      ∀ ident ∈ read, ident.IsPlain ∨ dots = true ∧ ident.name = "."

namespace Reads

variable {dots : Bool} {words middle rest : List Token} {read more : List Ident}

theorem refl : Reads dots words [] words :=
  fun wellSpelled => ⟨wellSpelled, rfl, by simp⟩

theorem trans (first : Reads dots words read middle) (second : Reads dots middle more rest) :
    Reads dots words (read ++ more) rest := by
  intro wellSpelled
  obtain ⟨middleSpelled, firstNames, firstPlain⟩ := first wellSpelled
  obtain ⟨restSpelled, secondNames, secondPlain⟩ := second middleSpelled
  refine ⟨restSpelled, ?_, ?_⟩
  · rw [firstNames, secondNames, List.append_assoc]
  · intro ident member
    rcases List.mem_append.1 member with inFirst | inSecond
    · exact firstPlain ident inFirst
    · exact secondPlain ident inSecond

/-- The names that are passed may be listed in any form. -/
theorem relist (reads : Reads dots words read rest) (same : read = more) :
    Reads dots words more rest :=
  same ▸ reads

/-- Where no dot is allowed, the same names are passed where one is. -/
theorem allowDots (reads : Reads false words read rest) : Reads dots words read rest := by
  intro wellSpelled
  obtain ⟨restSpelled, names, plain⟩ := reads wellSpelled
  refine ⟨restSpelled, names, fun ident member => .inl ?_⟩
  simpa using plain ident member

end Reads

end Lexed

namespace ParserState

open Lexed

variable {dots : Bool} {state : ParserState}

/-- Where the scanner keeps its promise, only the end of the text looks like it. -/
theorem ahead_eq_nil (wellSpelled : WellSpelled state.ahead) (atEnd : state.kind = .endOfFile) :
    state.ahead = [] := by
  cases words : state.ahead with
  | nil => rfl
  | cons token rest =>
      simp only [ParserState.kind, words] at atEnd
      exact absurd atEnd (wellSpelled token (by simp [words])).2.2

/-- A word that spells no name is passed without one. -/
theorem reads_skip {kind : Kind} (found : state.kind = kind) (nameless : kind.isNameless) :
    Reads dots state.ahead [] state.advance.ahead := by
  intro wellSpelled
  obtain ⟨noName, noDot⟩ : kind ≠ .identifier ∧ kind ≠ .dot := by
    simpa [Kind.isNameless] using nameless
  rw [ahead_advance]
  cases words : state.ahead with
  | nil => exact ⟨by simp [WellSpelled], rfl, by simp⟩
  | cons token rest =>
      simp only [ParserState.kind, words] at found
      rw [words] at wellSpelled
      refine ⟨wellSpelled.tail, ?_, by simp⟩
      simp [idents, names, spellsName, found, noName, noDot]

/-- An identifier is passed with the name that it spells. -/
theorem reads_ident (found : state.kind = .identifier) :
    Reads dots state.ahead [{ name := state.token.text, offset := some state.token.offset }]
      state.advance.ahead := by
  intro wellSpelled
  rw [ahead_advance]
  cases words : state.ahead with
  | nil => simp [ParserState.kind, words] at found
  | cons token rest =>
      simp only [ParserState.kind, words] at found
      rw [words] at wellSpelled
      simp only [ParserState.token, words]
      refine ⟨wellSpelled.tail, ?_, ?_⟩
      · simp [idents, names, spellsName, found, Token.toIdent]
      · intro ident member
        obtain rfl := List.mem_singleton.1 member
        exact .inl ((wellSpelled token (by simp)).1 found)

/-- A dot before anything but a string is passed without a name. -/
theorem reads_dot (found : state.kind = .dot) (next : state.advance.kind ≠ .string) :
    Reads dots state.ahead [] state.advance.ahead := by
  intro wellSpelled
  simp only [ParserState.kind, ahead_advance] at next
  rw [ahead_advance]
  cases words : state.ahead with
  | nil => simp [ParserState.kind, words] at found
  | cons token rest =>
      simp only [ParserState.kind, words] at found
      rw [words] at wellSpelled next
      refine ⟨wellSpelled.tail, ?_, by simp⟩
      cases rest with
      | nil => simp [idents, names, spellsName, found]
      | cons other others => simp_all [idents, names, spellsName]

/-- The dot before a string is passed with a name of its own. -/
theorem reads_importDot (found : state.kind = .dot) (next : state.advance.kind = .string) :
    Reads true state.ahead [{ name := ".", offset := some state.token.offset }]
      state.advance.ahead := by
  intro wellSpelled
  simp only [ParserState.kind, ahead_advance] at next
  rw [ahead_advance]
  cases words : state.ahead with
  | nil => simp [ParserState.kind, words] at found
  | cons token rest =>
      simp only [ParserState.kind, words] at found
      rw [words] at wellSpelled next
      have spelled := (wellSpelled token (by simp)).2.1 found
      simp only [ParserState.token, words]
      refine ⟨wellSpelled.tail, ?_, by simp⟩
      cases rest with
      | nil => simp at next
      | cons other others => simp_all [idents, names, spellsName, Token.toIdent]

end ParserState

namespace Parser

open Lexed

variable {dots : Bool} {state : ParserState}

theorem takeTrailing_ahead :
    takeTrailing.Ensures state fun _ final => final.ahead = state.ahead := by
  apply takeTrailing_ensures.weaken
  rintro comment final ⟨comments, rfl⟩
  rfl

theorem expectSemicolon_reads :
    expectSemicolon.Ensures state fun _ final =>
      Reads false state.ahead [] final.ahead := by
  simp [expectSemicolon]
  constructor
  · intro found
    exact ParserState.reads_skip found rfl
  · intro _ _
    exact .refl

end Parser

/-! ## The names that a production reads

A production keeps the names of a text if the walk over its result finds exactly the names that the
production has passed, behind those of the parts that it was handed. -/

open Lexed (Reads)

namespace Production

/-- The names in what was read before the production began. -/
def heldIdents : Production → List Ident
  | .binaryTail _ left => left.idents
  | .primaryTail operand => operand.idents
  | _ => []

/-- The names in the entries of a parameter list. -/
def entryIdents (entries : List (Expr × Option Expr)) : List Ident :=
  entries.flatMap fun entry => entry.1.idents ++ Expr.identsAll entry.2.toList

/-- The names in what the production reads. -/
def idents : (production : Production) → production.Result → List Ident
  | .binary _, (expr : Expr) => expr.idents
  | .binaryTail _ _, (expr : Expr) => expr.idents
  | .unary, (expr : Expr) => expr.idents
  | .primaryTail _, (expr : Expr) => expr.idents
  | .exprTail, exprs => Expr.identsAll exprs
  | .arguments, (exprs, _) => Expr.identsAll exprs
  | .elements, exprs => Expr.identsAll exprs
  | .element, (expr : Expr) => expr.idents
  | .type, (expr : Expr) => expr.idents
  | .params, entries => entryIdents entries
  | .structFields, fields => Field.identsAll fields
  | .interfaceMembers, fields => Field.identsAll fields
  | .block, (body : Block) => body.idents
  | .stmts, (body : List Stmt) => Stmt.identsAll body
  | .stmt, (kind : StmtKind) => kind.idents
  | .conditional, (kind : StmtKind) => kind.idents
  | .caseClauses, clauses => CaseClause.identsAll clauses
  | .commClauses, clauses => CommClause.identsAll clauses
  | .identTail, names => names
  | .specs _, entries => Spec.identsAll entries
  | .imports, (list : List Decl) => list.flatMap (·.idents)
  | .decls, (list : List Decl) => list.flatMap (·.idents)

/-- Only among imports a dot spells a name. -/
def allowsDots : Production → Bool
  | .specs keyword => keyword == .imports
  | .imports => true
  | _ => false

/-- Between the states before and after it the production has passed the names of
its result, apart from those that it was handed. -/
def Passes (production : Production) (state : ParserState) (result : production.Result)
    (final : ParserState) : Prop :=
  ∃ read, production.idents result = production.heldIdents ++ read ∧
    Reads production.allowsDots state.ahead read final.ahead

end Production

/-- A reader whose productions all keep the names. -/
def Reader.PassesNames (below : Reader) : Prop :=
  ∀ production state, (below production).Ensures state (production.Passes state)

/-- A production that is handed nothing and allows no dots passes the names of its
result. -/
theorem Reader.PassesNames.reads {below : Reader} (keeps : below.PassesNames)
    {state : ParserState} (production : Production)
    (nothingHeld : production.heldIdents = []) (noDots : production.allowsDots = false) :
    (below production).Ensures state fun result final =>
      Reads false state.ahead (production.idents result) final.ahead := by
  refine (keeps production state).weaken ?_
  rintro result final ⟨read, same, passed⟩
  rw [nothingHeld, List.nil_append] at same
  rw [same, ← noDots]
  exact passed

end GoMend
