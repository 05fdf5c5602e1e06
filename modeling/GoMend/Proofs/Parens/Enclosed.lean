import GoMend.Proofs.Parens.Paths
import GoMend.Proofs.Stripped.Document

/-!
# Expressions in parentheses

What is an expression by itself is one in parentheses and as the only argument of a call, with the
same tree, unless it begins with a channel or interface type and is joined by an operator: then it
is refused at an operator.
-/

namespace GoMend

theorem Expr.isBinary_stripped (expr : Expr) : expr.stripped.isBinary = expr.isBinary := by
  cases expr <;> rfl

namespace ParserState

variable {more : Closing} {state one other : ParserState}

@[simp] theorem level_advance (state : ParserState) : state.advance.level = state.level := by
  unfold advance
  split <;> rfl

/-- Levels apart, there is one state with more words behind. -/
theorem Continues.unique (continues : state.Continues more one)
    (continues' : state.Continues more other) (level : Int) :
    one.setLevel level = other.setLevel level := by
  obtain ⟨ahead, comments, lastStop, lines, _⟩ := continues
  obtain ⟨ahead', comments', lastStop', lines', _⟩ := continues'
  simp only [ParserState.setLevel, ahead, ahead', comments, comments', lastStop, lastStop', lines,
    lines']

end ParserState

namespace Grammar

open GoMend.Parser

/-! ## What parentheses and calls do -/

section

variable {below : Reader} {state inside : ParserState} {inner : Expr}

theorem nested_of_run {α : Type} {parser : Parser α} [steady : Steady parser] {value : α}
    (run : parser (state.advance.setLevel (state.level + 1)) = .ok value inside) :
    nested parser state.advance = .ok value (inside.setLevel state.level) := by
  have level : inside.level = state.level + 1 := (steady.same _).of_ok run
  refine atLevel_eq_ok_iff.2 ⟨inside, ?_, ?_⟩
  · rw [state.level_advance]
    exact run
  · rw [level, Int.add_sub_cancel]

/-- Behind an opening parenthesis something is read, and then a closing one. -/
theorem parenthesised_of_run {α β : Type} {parser : Parser α} [Steady parser]
    {next : α → Parser β} {value : α}
    (run : parser (state.advance.setLevel (state.level + 1)) = .ok value inside) :
    (bump >>= fun _ => nested parser >>= fun value => expect .rightParen >>= fun _ => next value)
        state =
      if inside.kind = .rightParen then next value (inside.setLevel state.level).advance
      else .error { fault := .expected .rightParen, offset := inside.offset }
        (inside.setLevel state.level) := by
  have outer : (nested parser >>= fun value => expect .rightParen >>= fun _ => next value)
      state.advance =
      (expect .rightParen >>= fun _ => next value) (inside.setLevel state.level) := by
    simp only [bind, EStateM.bind, nested_of_run run]
  change (nested parser >>= fun value => expect .rightParen >>= fun _ => next value)
    state.advance = _
  rw [outer]
  split
  · rename_i closes
    simp [bind, EStateM.bind, expect, closes]
  · rename_i missing
    simp [bind, EStateM.bind, expect, missing]
    rfl

theorem operand_eq_parenthesised (opens : state.kind = .leftParen) :
    operand below state = (bump >>= fun _ => nested (exprOrType below) >>= fun inner =>
      expect .rightParen >>= fun _ => pure (.paren inner)) state := by
  simp only [operand, bind, EStateM.bind, peek, opens]

theorem primaryTail_eq_parenthesised (opens : state.kind = .leftParen) (callee : Expr) :
    primaryTail below callee state = (bump >>= fun _ => nested (below .arguments) >>= fun read =>
      expect .rightParen >>= fun _ => below (.primaryTail (.call callee read.1 read.2))) state := by
  simp only [primaryTail, bind, EStateM.bind, peek, opens]

theorem arguments_of_run (some : state.kind ∉ [Kind.rightParen, .endOfFile])
    (run : exprOrType below state = .ok inner inside)
    (last : inside.kind ∉ [Kind.ellipsis, .comma]) :
    arguments below state = .ok ([inner], false) inside := by
  obtain ⟨notClosed, notEnded⟩ : state.kind ≠ .rightParen ∧ state.kind ≠ .endOfFile := by
    simpa using some
  obtain ⟨notSpread, notFurther⟩ : inside.kind ≠ .ellipsis ∧ inside.kind ≠ .comma := by
    simpa using last
  simp [arguments, bind, EStateM.bind, atAny, notClosed, notEnded, run, eat, notSpread, notFurther,
    pure, EStateM.pure]

/-- A call ends where nothing follows that could stand behind an operand. -/
theorem primaryTail_call {bound : Nat} {callee : Expr} {arguments : List Expr} {spread : Bool}
    (stops : state.kind ∉ [Kind.dot, .leftBracket, .leftParen]) :
    Production.read (bound + 1) (.primaryTail (.call callee arguments spread)) state =
      .ok (.call callee arguments spread) state := by
  have ends : (Production.read (bound + 1) (.primaryTail (.call callee arguments spread))).Ends
      state (fun read final => read = .call callee arguments spread ∧ final = state)
      fun _ _ => False := by
    change (primaryTail _ _).Ends _ _ _
    rw [primaryTail, ends_bind, ends_peek]
    split
    · simp_all
    · simp_all
    · simp_all
    · simp [isLiteralType, isTypeName]
    · simp
  unfold Ends at ends
  split at ends
  · rename_i run
    rw [run, ends.1, ends.2]
  · exact ends.elim

end

end Grammar

namespace ParserState

/-- The state stands before the words in parentheses, with others behind. -/
structure Encloses (state : ParserState) (words rest : List Token) : Prop where
  ahead : ∃ opening close, state.ahead = opening :: (words ++ close :: rest) ∧
    opening.kind = .leftParen ∧ close.kind = .rightParen
  /-- Headers do not stand in headers. -/
  level : -1 ≤ state.level

/-- The state behind an opening parenthesis if only the words remained. -/
def alone (state : ParserState) (words : List Token) (level : Int) : ParserState :=
  { state.advance with ahead := words, level }

namespace Encloses

variable {state : ParserState} {words rest : List Token} (encloses : state.Encloses words rest)

include encloses

theorem kind : state.kind = .leftParen := by
  obtain ⟨opening, close, ahead, opens, _⟩ := encloses.ahead
  rw [ParserState.kind, ahead]
  exact opens

/-- Behind the opening parenthesis the words stand with the closing one behind. -/
theorem continues {level : Int} (free : 0 ≤ level) : ∃ more : Closing,
    (∃ close, close.kind = .rightParen ∧ more.words = close :: rest) ∧
      (state.alone words level).Continues more (state.advance.setLevel (state.level + 1)) := by
  obtain ⟨opening, close, ahead, _, closes⟩ := encloses.ahead
  refine ⟨⟨close :: rest, by simp [closes]⟩, ⟨close, closes, rfl⟩, ?_, rfl, rfl, rfl, ?_⟩
  · rw [ahead_setLevel, ahead_advance, ahead]
    rfl
  · exact .inr ⟨free, by have := encloses.level; simp only [setLevel]; omega⟩

end Encloses

/-- Words alone are read side by side with words like them. -/
theorem alongside_alone (state : ParserState) {start : ParserState} {words : List Token}
    (alike : List.Forall₂ Token.Alike start.ahead words) :
    Alongside start (state.alone words start.level) start (state.alone words start.level) :=
  ⟨alike, ⟨0, Nat.zero_le _, rfl, rfl⟩, rfl, rfl, rfl⟩

end ParserState

namespace Grammar

open GoMend.Parser

/-- Whether the expression, which begins with a word of the category, joins a channel or interface
type to something by an operator. -/
def joinsType (kind : Kind) (expr : Expr) : Bool :=
  [Kind.chanKw, .interfaceKw].contains kind && expr.isBinary

/-- The parser stops at an operator among the words, where a closing parenthesis is required. -/
def RefusedAtOperator (words : List Token) (parser : Parser Expr) (state : ParserState) : Prop :=
  ∃ token ∈ words, (BinaryOp.ofKind? token.kind).isSome ∧ ∃ behind,
    parser state = .error { fault := .expected .rightParen, offset := token.offset } behind

theorem kind_of_operator {kind : Kind} (operator : (BinaryOp.ofKind? kind).isSome) :
    kind ∉ [Kind.rightParen, .ellipsis, .comma] := by
  intro found
  have found : kind = .rightParen ∨ kind = .ellipsis ∨ kind = .comma := by simpa using found
  rcases found with rfl | rfl | rfl <;> cases operator

section

variable {bound bound' : Nat} {state final state' : ParserState} {expr : Expr}
  {words rest : List Token}

/-- What is read from some words is read from words like them, up to layout. -/
theorem expr_alike (state' : ParserState)
    (run : Grammar.expr (Production.read bound) state = .ok expr final)
    (whole : final.ahead = []) (alike : List.Forall₂ Token.Alike state.ahead words) :
    ∃ inner after,
      Grammar.expr (Production.read bound) (state'.alone words state.level) = .ok inner after ∧
        inner.stripped = expr.stripped ∧ after.ahead = [] := by
  have along := ParserState.alongside_alone state' alike
  have together := (Production.agrees_read bound).each (.binary 1) along
  change Together _ _ _ (Grammar.expr (Production.read bound) state)
    (Grammar.expr (Production.read bound) (state'.alone words state.level)) at together
  rw [run] at together
  revert together
  generalize Grammar.expr (Production.read bound) (state'.alone words state.level) = ends
  intro together
  cases together with
  | ok same along =>
      have words := along.words
      rw [whole, List.forall₂_nil_left_iff] at words
      exact ⟨_, _, rfl, same.symm, words⟩

section

variable {level : Int} {inner : Expr} {after : ParserState} (encloses : state'.Encloses words rest)
  (free : 0 ≤ level) (run : Grammar.expr (Production.read bound) (state'.alone words level) =
    .ok inner after)

include encloses free run

/-- What the plain path reads from the words alone stands in the parentheses and is the argument of
the call. -/
theorem enclosed_of_run (deeper : bound < bound') (whole : after.ahead = [])
    (single : joinsType (state'.alone words level).kind inner = false) :
    ∃ behind, behind.ahead = rest ∧
      operand (Production.read bound') state' = .ok (.paren inner) behind ∧
      ∀ callee, primaryTail (Production.read bound') callee state' =
        Production.read bound' (.primaryTail (.call callee [inner] false)) behind := by
  obtain ⟨more, ⟨close, closes, words_⟩, continues⟩ := encloses.continues free
  have single : (state'.alone words level).kind ∈ [Kind.chanKw, .interfaceKw] →
      inner.isBinary = false := by
    simpa [joinsType] using single
  -- whatever the bound, the second path stops before the closing parenthesis
  have path : ∀ bound', bound ≤ bound' → ∃ inside, after.Continues more inside ∧
      inside.ahead = close :: rest ∧ inside.kind = .rightParen ∧
      exprOrType (Production.read bound') (state'.advance.setLevel (state'.level + 1)) =
        .ok inner inside := by
    intro bound' deeper
    obtain ⟨inside, path, continues'⟩ := exprOrType_follows deeper continues run single
    have ahead : inside.ahead = close :: rest := by
      rw [continues'.ahead, whole, words_, List.nil_append]
    exact ⟨inside, continues', ahead, by rw [ParserState.kind, ahead]; exact closes, path⟩
  obtain ⟨inside, continues₁, ahead, closing, path₁⟩ := path bound' (Nat.le_of_lt deeper)
  refine ⟨(inside.setLevel state'.level).advance, ?_, ?_, fun callee => ?_⟩
  · rw [ParserState.ahead_advance, ParserState.ahead_setLevel, ahead, List.tail_cons]
  · rw [operand_eq_parenthesised encloses.kind, parenthesised_of_run path₁, if_pos closing]
    rfl
  · obtain ⟨further, rfl⟩ := Nat.exists_eq_add_of_lt deeper
    obtain ⟨inside', continues₂, ahead', closing', path₂⟩ := path (bound + further) (by omega)
    have arguments : Production.read (bound + further + 1) .arguments
        (state'.advance.setLevel (state'.level + 1)) = .ok ([inner], false) inside' :=
      arguments_of_run (kind_of_continues continues run) path₂ (by rw [closing']; decide)
    rw [primaryTail_eq_parenthesised encloses.kind, parenthesised_of_run arguments,
      if_pos closing', continues₁.unique continues₂]

/-- Where an operator follows a channel or interface type, neither the parentheses nor the call are
read. -/
theorem refused_of_run (deeper : bound < bound')
    (joins : joinsType (state'.alone words level).kind inner = true) :
    RefusedAtOperator words (operand (Production.read bound')) state' ∧
      ∀ callee, RefusedAtOperator words (primaryTail (Production.read bound') callee) state' := by
  obtain ⟨more, _, continues⟩ := encloses.continues free
  obtain ⟨typed, binary⟩ : (state'.alone words level).kind ∈ [Kind.chanKw, .interfaceKw] ∧
      inner.isBinary = true := by
    simpa [joinsType] using joins
  have path : ∀ bound', bound ≤ bound' → ∃ left inside,
      exprOrType (Production.read bound') (state'.advance.setLevel (state'.level + 1)) =
        .ok left inside ∧
      ¬inside.kind = .rightParen ∧ inside.kind ∉ [Kind.ellipsis, .comma] ∧
      ∃ token ∈ words, (BinaryOp.ofKind? token.kind).isSome ∧ inside.offset = token.offset := by
    intro bound' deeper
    obtain ⟨left, inside, path, token, among, operator, kind, offset⟩ :=
      exprOrType_stops deeper continues run typed binary
    have apart : inside.kind ∉ [Kind.rightParen, .ellipsis, .comma] :=
      kind ▸ kind_of_operator operator
    obtain ⟨missing, last⟩ := List.ne_and_not_mem_of_not_mem_cons apart
    exact ⟨left, inside, path, missing, last, token, among, operator, offset⟩
  constructor
  · obtain ⟨left, inside, path, missing, _, token, among, operator, offset⟩ :=
      path bound' (Nat.le_of_lt deeper)
    refine ⟨token, among, operator, inside.setLevel state'.level, ?_⟩
    rw [operand_eq_parenthesised encloses.kind, parenthesised_of_run path, if_neg missing, offset]
  · intro callee
    obtain ⟨further, rfl⟩ := Nat.exists_eq_add_of_lt deeper
    obtain ⟨left, inside, path, missing, last, token, among, operator, offset⟩ :=
      path (bound + further) (by omega)
    have arguments : Production.read (bound + further + 1) .arguments
        (state'.advance.setLevel (state'.level + 1)) = .ok ([left], false) inside :=
      arguments_of_run (kind_of_continues continues run) path last
    refine ⟨token, among, operator, inside.setLevel state'.level, ?_⟩
    rw [primaryTail_eq_parenthesised encloses.kind, parenthesised_of_run arguments,
      if_neg missing, offset]

end

theorem joinsType_stripped {kind : Kind} {inner : Expr} (same : inner.stripped = expr.stripped) :
    joinsType kind inner = joinsType kind expr := by
  rw [joinsType, joinsType, ← Expr.isBinary_stripped inner, same, Expr.isBinary_stripped]

/-- Words that are an expression outside the headers of statements are one in parentheses, with the
same tree, and as the only argument behind any callee: the tree is what the plain path reads from
them at their place.  Only where an operator follows a channel or interface type at the front are
they refused, in parentheses and as an argument, at an operator among them. -/
theorem expr_enclosed (deeper : bound < bound') (free : 0 ≤ state.level)
    (run : Grammar.expr (Production.read bound) state = .ok expr final) (whole : final.ahead = [])
    (alike : List.Forall₂ Token.Alike state.ahead words) (encloses : state'.Encloses words rest) :
    (joinsType state.kind expr = false → ∃ inner after behind,
      Grammar.expr (Production.read bound) (state'.alone words state.level) = .ok inner after ∧
        inner.stripped = expr.stripped ∧ behind.ahead = rest ∧
        operand (Production.read bound') state' = .ok (.paren inner) behind ∧
        ∀ callee, behind.kind ∉ [Kind.dot, .leftBracket, .leftParen] →
          primaryTail (Production.read bound') callee state' =
            .ok (.call callee [inner] false) behind) ∧
      (joinsType state.kind expr = true →
        RefusedAtOperator words (operand (Production.read bound')) state' ∧
          ∀ callee,
            RefusedAtOperator words (primaryTail (Production.read bound') callee) state') := by
  obtain ⟨inner, after, run', same, whole'⟩ := expr_alike state' run whole alike
  have kind : state.kind = (state'.alone words state.level).kind :=
    (ParserState.alongside_alone state' alike).kind
  rw [← joinsType_stripped same, kind]
  constructor
  · intro single
    obtain ⟨behind, ahead, paren, call⟩ := enclosed_of_run encloses free run' deeper whole' single
    refine ⟨inner, after, behind, run', same, ahead, paren, fun callee stops => ?_⟩
    obtain ⟨further, rfl⟩ := Nat.exists_eq_add_of_lt deeper
    rw [call, primaryTail_call stops]
  · exact refused_of_run encloses free run' deeper

end

/-- The words of a conversion to an interface type, the first at the offset. -/
def conversionWords (offset : Nat) : List Token :=
  [⟨.interfaceKw, "interface", offset⟩, ⟨.leftBrace, "\x7b", offset + 9⟩,
    ⟨.rightBrace, "\x7d", offset + 10⟩, ⟨.leftParen, "(", offset + 11⟩,
    ⟨.identifier, "y", offset + 12⟩, ⟨.rightParen, ")", offset + 13⟩]

theorem expr_enclosed_conversion :
    let start : ParserState := ⟨conversionWords 0, [], 0, 0, LineIndex.ofText "interface\x7b\x7d(y)"⟩
    let state : ParserState :=
      ⟨⟨.leftParen, "(", 0⟩ :: (conversionWords 1 ++ [⟨.rightParen, ")", 15⟩]), [], 0, -1,
        LineIndex.ofText "(interface\x7b\x7d(y))"⟩
    ∃ conversion final inner behind,
      Grammar.expr (Production.read 7) start = .ok conversion final ∧ final.ahead = [] ∧
      inner.stripped = conversion.stripped ∧ behind.ahead = [] ∧
      operand (Production.read 8) state = .ok (.paren inner) behind ∧
      ∀ callee, primaryTail (Production.read 8) callee state =
        .ok (.call callee [inner] false) behind := by
  intro start state
  have run : Grammar.expr (Production.read 7) start = .ok
      (.call (.interfaceType ⟨[], []⟩) [.ident ⟨"y", some 12⟩] false)
      { start with ahead := [], lastStop := 14 } := by
    rfl
  have alike : List.Forall₂ Token.Alike start.ahead (conversionWords 1) := by
    iterate 6 refine .cons ⟨rfl, .inr rfl⟩ ?_
    exact .nil
  have encloses : state.Encloses (conversionWords 1) [] :=
    ⟨⟨_, _, rfl, rfl, rfl⟩, by decide⟩
  obtain ⟨accepted, _⟩ := expr_enclosed (show 7 < 8 by decide) (by decide) run rfl alike encloses
  obtain ⟨inner, after, behind, _, same, ahead, paren, call⟩ := accepted rfl
  refine ⟨_, _, inner, behind, run, rfl, same, ahead, paren, fun callee => call callee ?_⟩
  rw [ParserState.kind_of_nil ahead]
  decide

end Grammar

/-- A comparison that begins with a conversion to an interface type is read by itself, and refused
in parentheses and as an argument. -/
theorem File.parse_enclosedConversion :
    (∃ file, parse "package p\n\nvar x = interface\x7b\x7d(y) == nil\n" = .ok file) ∧
      parse "package p\n\nvar x = (interface\x7b\x7d(y) == nil)\n" =
        .error { fault := .expected .rightParen, offset := 35 } ∧
      parse "package p\n\nvar x = f(interface\x7b\x7d(y) == nil)\n" =
        .error { fault := .expected .rightParen, offset := 36 } := by
  have refused (text : String) (error : SyntaxError)
      (checked : (parse text).map (fun _ => ()) = .error error) : parse text = .error error := by
    cases parsed : parse text with
    | ok file => rw [parsed] at checked; cases checked
    | error fault => rw [parsed] at checked; cases checked; rfl
  refine ⟨?_, refused _ _ (by decide +kernel), refused _ _ (by decide +kernel)⟩
  have read : (parse "package p\n\nvar x = interface\x7b\x7d(y) == nil\n").isOk = true := by
    decide +kernel
  cases parsed : parse "package p\n\nvar x = interface\x7b\x7d(y) == nil\n" with
  | ok file => exact ⟨file, rfl⟩
  | error fault => rw [parsed] at read; cases read

end GoMend
