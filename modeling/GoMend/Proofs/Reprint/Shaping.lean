import GoMend.Proofs.Grammar.Forward
import GoMend.Proofs.Reprint.Legible

/-!
# What is read is shaped

A tree that is read begins with the word at which reading began, lies on one line unless reading
passed to a later one, and is shaped as the place asks, unless it holds a node that its layout
need not bring back or an error stands behind it.
-/

namespace GoMend

open Token (Lexeme freeKinds)
open Piece (breaksIn)
open GoMend.Parser

/-! ## Lines that are passed -/

namespace ParserState

/-- The line on which the next word begins. -/
def row (state : ParserState) : Nat :=
  state.lines.lineAt state.offset

/-- The words ahead keep the promise of the scanner. -/
def Orderly (state : ParserState) : Prop :=
  Lexed.Orderly state.lines state.ahead

/-- From the first state on words were read that keep the promise of the scanner. -/
structure Leads (state final : ParserState) : Prop where
  orderly : final.Orderly
  row : state.row ≤ final.row
  lines : final.lines = state.lines

section

variable {state middle final : ParserState}

theorem token_offset (state : ParserState) : state.token.offset = state.offset := by
  unfold token offset
  split <;> rfl

theorem lines_setLevel {level : Int} : (state.setLevel level).lines = state.lines := rfl

theorem row_eq (state : ParserState) :
    state.row = state.lines.lineAt (Lexed.headOffset state.lines.size state.ahead) := by
  unfold row offset
  split <;> simp [Lexed.headOffset, *]

theorem kind_eq (state : ParserState) : state.kind = Lexed.headKind state.ahead := by
  unfold kind
  split <;> simp [Lexed.headKind, *]

theorem Leads.of_before (orderly : state.Orderly) (before : state.Before final) :
    state.Leads final := by
  refine ⟨?_, ?_, before.lines⟩
  · rw [Orderly, before.lines]
    exact Lexed.Orderly.of_suffix orderly before.ahead
  · rw [row_eq, row_eq, before.lines]
    exact Lexed.Orderly.lineAt_mono orderly before.ahead

theorem Leads.advance (orderly : state.Orderly) : state.Leads state.advance :=
  .of_before orderly (.advance state)

theorem Leads.trans (first : state.Leads middle) (second : middle.Leads final) :
    state.Leads final :=
  ⟨second.orderly, first.row.trans second.row, second.lines.trans first.lines⟩

theorem Leads.setLevel (leads : state.Leads final) (level : Int) :
    state.Leads (final.setLevel level) :=
  ⟨leads.orderly, leads.row, leads.lines⟩

/-- A name or literal that is read. -/
theorem Orderly.free (orderly : state.Orderly) (free : state.kind ∈ freeKinds)
    (calm : state.advance.kind ≠ .error) :
    Lexeme state.kind state.token.text.toList ∧
      state.row + state.token.text.toList.count '\n' ≤ state.advance.row := by
  rw [kind_eq, ahead_advance] at calm
  rw [row_eq, row_eq, ahead_advance, (ParserState.Before.advance state).lines]
  unfold Orderly at orderly
  unfold kind at free ⊢
  unfold token
  split at free
  · exact absurd free (by decide)
  · rename_i token rest ahead
    rw [ahead] at orderly calm ⊢
    exact ⟨orderly.1.lexeme free calm, orderly.1.breaks free⟩

theorem Orderly.name (orderly : state.Orderly) (isName : state.kind = .identifier)
    (calm : state.advance.kind ≠ .error) :
    Lexeme .identifier state.token.text.toList ∧
      state.row + state.token.text.toList.count '\n' ≤ state.advance.row :=
  isName ▸ orderly.free (by rw [isName]; decide) calm

end

end ParserState

/-- Started before words that keep the promise of the scanner, the parser leads on and ends as
told, unless an error stands behind what it has read. -/
def Parser.Promises {α : Type} (parser : Parser α) (state : ParserState)
    (good : α → ParserState → Prop) : Prop :=
  state.Orderly → parser.Ensures state fun result final =>
    state.Leads final ∧ (final.kind ≠ .error → good result final)

theorem Parser.Forward.leads {α : Type} {parser : Parser α} [forward : Forward parser]
    {state : ParserState} (orderly : state.Orderly) :
    parser.Ensures state fun _ final => state.Leads final :=
  (forward.before state).mono (fun _ _ => .of_before orderly) fun _ _ _ => trivial

theorem Parser.Forward.promises {α : Type} {parser : Parser α} [Forward parser]
    {state : ParserState} {good : α → ParserState → Prop}
    (ends : state.Orderly → parser.Ensures state fun result final =>
      final.kind ≠ .error → good result final) :
    parser.Promises state good :=
  fun orderly => Ends.and (Forward.leads orderly) (ends orderly)

/-! ## What productions promise -/

/-- The tree was read at the place between the two states. -/
structure Stands (form : Form) (state : ParserState) (expr : Expr) (final : ParserState) :
    Prop where
  shaped : Shaped form expr
  lead : expr.lead? = some state.kind
  breaks : breaksIn expr.pieces ≠ 0 → state.row < final.row

/-- The trees were read at places of one kind between the two states. -/
def StandAll (form : Form) (state : ParserState) (exprs : List Expr) (final : ParserState) :
    Prop :=
  Expr.reprintAll exprs = true → (∀ expr ∈ exprs, Shaped form expr) ∧
    (breaksIn (Expr.listPieces exprs) ≠ 0 → state.row < final.row)

/-- Between the two states a tree was read on from the part of it that was there before. -/
structure Grown (needs : Prop) (form : Form) (state : ParserState) (held expr : Expr)
    (final : ParserState) : Prop where
  reprints : held.reprints = true
  shaped : needs → Shaped form expr
  lead : ∀ kind, held.lead? = some kind → expr.lead? = some kind
  breaks : breaksIn expr.pieces ≠ 0 → breaksIn held.pieces ≠ 0 ∨ state.row < final.row

/-- A dot behind an operand that is no number belongs to the whole of it. -/
def TakesDot (operand : Expr) (kind : Kind) : Prop :=
  kind = .dot → operand.isNumeral = false → operand.takesDot = true

namespace Production

/-- What a production promises of a result behind which no error stands. -/
def Shapes : (production : Production) → ParserState → production.Result → ParserState → Prop
  | .binary floor, state, (expr : Expr), final =>
      expr.reprints = true → Stands (.binary floor) state expr final ∧ Loose floor final.kind
  | .binaryTail floor left, state, (expr : Expr), final =>
      expr.reprints = true → state.kind ≠ .error ∧ Loose floor final.kind ∧
        Grown (Shaped (.binary floor) left ∧
            ∀ op, BinaryOp.ofKind? state.kind = some op → Shaped (.binary op.precedence) left)
          (.binary floor) state left expr final
  | .unary, state, (expr : Expr), final => expr.reprints = true → Stands .unary state expr final
  | .primaryTail operand, state, (expr : Expr), final =>
      expr.reprints = true → state.kind ≠ .error ∧
        Grown (Shaped .primary operand ∧ TakesDot operand state.kind) .primary state operand expr
          final
  | .exprTail, state, exprs, _ =>
      state.kind ≠ .error ∧ ∀ expr ∈ exprs, expr.reprints = true → Shaped (.binary 1) expr
  | .arguments, state, (exprs, _), final => StandAll .argument state exprs final
  | .elements, state, exprs, final => StandAll .item state exprs final
  | .element, state, (expr : Expr), final =>
      expr.reprints = true → Stands .element state expr final
  | .type, state, (expr : Expr), final =>
      expr.reprints = true →
        Stands .type state expr final ∧ (final.kind = .dot → expr.endsInName = false)
  | _, _, _, _ => True

end Production

/-- A reader whose productions all keep their promises. -/
def Reader.Shapes (below : Reader) : Prop :=
  ∀ production state, (below production).Promises state (production.Shapes state)

theorem breaksIn_tailPieces (exprs : List Expr) :
    breaksIn (Expr.tailPieces exprs) = breaksIn (Expr.listPieces exprs) := by
  cases exprs with
  | nil => rfl
  | cons expr exprs => simp [Expr.tailPieces_cons, Expr.listPieces_cons, Piece.breaks]

namespace StandAll

variable {form : Form} {state middle next final : ParserState} {expr : Expr} {exprs : List Expr}

theorem nil : StandAll form state [] final :=
  fun _ => ⟨nofun, nofun⟩

theorem cons (first : expr.reprints = true →
      Shaped form expr ∧ (breaksIn expr.pieces ≠ 0 → state.row < middle.row))
    (others : StandAll form next exprs final) (before : state.row ≤ middle.row)
    (onwards : middle.row ≤ next.row) (behind : next.row ≤ final.row) :
    StandAll form state (expr :: exprs) final := by
  intro reprints
  rw [Expr.reprintAll_cons, Bool.and_eq_true] at reprints
  obtain ⟨shaped, breaks⟩ := first reprints.1
  obtain ⟨othersShaped, othersBreaks⟩ := others reprints.2
  refine ⟨List.forall_mem_cons.2 ⟨shaped, othersShaped⟩, fun broken => ?_⟩
  rw [Expr.listPieces_cons, Piece.breaksIn_append, breaksIn_tailPieces] at broken
  omega

theorem single (first : expr.reprints = true →
      Shaped form expr ∧ (breaksIn expr.pieces ≠ 0 → state.row < middle.row))
    (before : state.row ≤ middle.row) : StandAll form state [expr] middle :=
  .cons first .nil before (Nat.le_refl _) (Nat.le_refl _)

end StandAll

namespace Stands

variable {form : Form} {needs : Prop} {state middle final : ParserState} {held expr : Expr}

theorem kind_mem (stands : Stands form state expr final) : state.kind ∈ form.leads := by
  obtain ⟨kind, listed, begins⟩ := stands.shaped.lead_mem
  rw [stands.lead, Option.some.injEq] at begins
  exact begins ▸ listed

/-- No error stands where a tree begins. -/
theorem calm (stands : Stands form state expr final) : state.kind ≠ .error := by
  have noError : Kind.error ∉ Form.item.leads := by decide
  exact fun isError => noError (Form.leads_subset form (isError ▸ stands.kind_mem))

/-- A type that opens with a bracket or a keyword is an operand. -/
theorem bare {type : Expr} (stands : Stands .type state type final)
    (dotted : final.kind = .dot → type.endsInName = false)
    (opens : state.kind ∉ [.identifier, .star, .leftParen]) :
    Stands .primary state type final ∧ TakesDot type final.kind := by
  have isBare : type.isBareType = true := stands.shaped.isBareType stands.lead opens
  refine ⟨⟨.bare stands.shaped isBare, stands.lead, stands.breaks⟩, fun isDot _ => ?_⟩
  rw [type.takesDot_of_isBareType isBare, dotted isDot, Bool.not_false]

/-- A tree that was read on. -/
theorem grown {other : Form} (stands : Stands other state held middle)
    (grown : Grown needs form middle held expr final) (meets : needs)
    (first : state.row ≤ middle.row) (second : middle.row ≤ final.row) :
    Stands form state expr final := by
  refine ⟨grown.shaped meets, grown.lead _ stands.lead, fun broken => ?_⟩
  rcases grown.breaks broken with before | behind
  · exact (stands.breaks before).trans_le second
  · exact first.trans_lt behind

/-- A star before a tree. -/
theorem star {other : Form} (stands : Stands other middle held final)
    (shaped : Shaped form (.star held)) (isStar : state.kind = .star)
    (before : state.row ≤ middle.row) : Stands form state (.star held) final := by
  refine ⟨shaped, isStar ▸ rfl, fun broken => before.trans_lt (stands.breaks ?_)⟩
  simpa [Expr.pieces_star, Piece.breaks] using broken

/-- Parentheses around a tree. -/
theorem enclosed {other : Form} {next : ParserState} (stands : Stands other middle held next)
    (shaped : Shaped form (.paren held)) (isParen : state.kind = .leftParen)
    (before : state.row ≤ middle.row) (behind : next.row ≤ final.row) :
    Stands form state (.paren held) final := by
  refine ⟨shaped, isParen ▸ rfl, fun broken => ?_⟩
  have within : middle.row < next.row :=
    stands.breaks (by simpa [Expr.pieces_paren, Piece.breaks] using broken)
  exact (before.trans_lt within).trans_le behind

/-- A channel of a type. -/
theorem chan {direction : ChanDirection} (stands : Stands .type middle held final)
    (begins : Piece.lead? direction.pieces = some state.kind)
    (noArrow : direction = .both → middle.kind ≠ .arrow) (before : state.row ≤ middle.row) :
    Stands .type state (.chanType direction held) final := by
  refine ⟨.chan stands.shaped fun isBoth isArrow => ?_, ?_, fun broken =>
    before.trans_lt (stands.breaks ?_)⟩
  · exact noArrow isBoth (Option.some.inj (stands.lead.symm.trans isArrow))
  · cases direction <;> exact begins
  · cases direction <;>
      simpa [Expr.pieces_chanType, ChanDirection.pieces, Piece.breaks] using broken

end Stands

theorem Grown.refl {needs : Prop} {form : Form} {state final : ParserState} {expr : Expr}
    (reprints : expr.reprints = true) (shaped : needs → Shaped form expr) :
    Grown needs form state expr expr final :=
  ⟨reprints, shaped, fun _ => id, .inl⟩

namespace Grammar

variable {below : Reader} [∀ production, Forward (below production)] {state : ParserState}

theorem typeName_shapes :
    typeName.Promises state fun type final =>
      Stands .type state type final ∧ (final.kind = .dot → type.endsInName = false) := by
  refine Forward.promises fun orderly => ?_
  simp only [typeName, ends_bind, ends_ident, ends_eat, ends_ite, ends_pure]
  refine ⟨fun isName => ⟨fun dot => ⟨fun _ => ⟨fun isSecond calm => ?_, fun _ => trivial⟩,
      (absurd trivial ·)⟩,
    fun noDot => ⟨(absurd · Bool.false_ne_true), fun _ calm => ?_⟩⟩, fun _ => trivial⟩
  · obtain ⟨lexeme, breaks⟩ := orderly.name isName (by simp [dot])
    have behindName := (ParserState.Leads.advance orderly).orderly
    have behindDot := ParserState.Leads.advance behindName
    obtain ⟨second, secondBreaks⟩ := behindDot.orderly.name isSecond calm
    refine ⟨⟨.qualified lexeme second, isName ▸ rfl, fun broken => ?_⟩, fun _ => rfl⟩
    have later := behindDot.row
    simp [Expr.pieces_selector, Expr.pieces_ident, Piece.breaks] at broken
    omega
  · obtain ⟨lexeme, breaks⟩ := orderly.name isName calm
    refine ⟨⟨.typeName lexeme, isName ▸ rfl, fun broken => ?_⟩, fun dot => absurd dot noDot⟩
    simp [Expr.pieces_ident, Piece.breaks] at broken
    omega

theorem calm_of {kind : Kind} (here : state.kind = kind) (other : kind ≠ .error) :
    state.kind ≠ .error :=
  here ▸ other

theorem arrayLength_shapes (shapes : below.Shapes) :
    (arrayLength below).Promises state fun length final => Expr.lengthReprints length = true →
      (∀ size, length = .fixed size → Shaped (.binary 1) size) ∧
        (breaksIn length.pieces ≠ 0 → state.row < final.row) := by
  refine Forward.promises fun orderly => ?_
  have next := ParserState.Leads.advance orderly
  simp only [arrayLength, ends_bind, ends_expect, ends_eat, ends_ite, ends_pure, ends_outcome,
    ends_nested]
  refine ⟨fun _ => ⟨fun _ => ⟨fun _ _ _ => ⟨by simp, fun broken => ?_⟩, (absurd trivial ·)⟩,
    fun _ => ⟨(absurd · Bool.false_ne_true), fun _ => ⟨fun _ => ⟨fun _ =>
        ⟨fun _ _ _ => ⟨by simp, fun broken => ?_⟩, fun _ => trivial⟩, (absurd trivial ·)⟩,
      fun _ => ⟨(absurd · Bool.false_ne_true), fun _ => ?_⟩⟩⟩⟩, fun _ => trivial⟩
  · simp [ArrayLength.pieces_slice, Piece.breaks] at broken
  · simp [ArrayLength.pieces_inferred, Piece.breaks] at broken
  · refine Ends.mono (shapes (.binary 1) (state.advance.setLevel _) next.orderly)
      (fun size final promise => ⟨fun isBracket calm reprints => ?_, fun _ => trivial⟩)
      fun error final _ => ⟨fun _ => trivial, fun _ => trivial⟩
    obtain ⟨stands, -⟩ := promise.2 (calm_of isBracket (by decide)) reprints
    refine ⟨fun _ same => ArrayLength.fixed.inj same ▸ stands.shaped, fun broken => ?_⟩
    have size : state.advance.row < final.row :=
      stands.breaks (by simpa [ArrayLength.pieces_fixed, Piece.breaks] using broken)
    have last := ParserState.Leads.advance promise.1.orderly
    rw [ParserState.advance_setLevel]
    exact (next.row.trans_lt size).trans_le last.row

theorem type_shapes (shapes : below.Shapes) :
    (type below).Promises state fun type final => type.reprints = true →
      Stands .type state type final ∧ (final.kind = .dot → type.endsInName = false) := by
  refine Forward.promises fun orderly => ?_
  have next := ParserState.Leads.advance orderly
  unfold type
  simp only [ends_bind, ends_peek]
  split
  case h_1 => exact (typeName_shapes orderly).weaken fun _ _ promise calm _ => promise.2 calm
  case h_2 kind isStar =>
    simp only [ends_bind, ends_bump, ends_pure]
    refine (shapes .type _ next.orderly).weaken fun inner final promise calm reprints => ?_
    obtain ⟨stands, dotted⟩ := promise.2 calm reprints
    exact ⟨stands.star (.pointer stands.shaped) isStar next.row, dotted⟩
  case h_3 kind isBracket =>
    simp only [ends_bind, ends_pure]
    refine (arrayLength_shapes shapes orderly).weaken fun length middle lengthPromise => ?_
    refine (shapes .type _ lengthPromise.1.orderly).weaken
      fun element final promise calm reprints => ?_
    rw [Expr.reprints_arrayType, Bool.and_eq_true] at reprints
    obtain ⟨stands, dotted⟩ := promise.2 calm reprints.2
    obtain ⟨size, lengthBreaks⟩ := lengthPromise.2 stands.calm reprints.1
    refine ⟨⟨.array size stands.shaped, ?_, fun broken => ?_⟩, dotted⟩
    · rw [isBracket]
      cases length <;> rfl
    · have lengthRow := lengthPromise.1.row
      have row := promise.1.row
      have elementBreaks := stands.breaks
      rw [Expr.pieces_arrayType, Piece.breaksIn_append] at broken
      omega
  case h_4 kind isMap =>
    simp only [ends_bind, ends_bump, ends_expect, ends_pure]
    refine ⟨fun isBracket => ?_, fun _ => trivial⟩
    have second := ParserState.Leads.advance next.orderly
    refine (shapes .type _ second.orderly).weaken fun key middle keyPromise => ?_
    refine ⟨fun isClose => ?_, fun _ => trivial⟩
    have third := ParserState.Leads.advance keyPromise.1.orderly
    refine (shapes .type _ third.orderly).weaken fun value final promise calm reprints => ?_
    rw [Expr.reprints_mapType, Bool.and_eq_true] at reprints
    obtain ⟨keyStands, -⟩ := keyPromise.2 (calm_of isClose (by decide)) reprints.1
    obtain ⟨stands, dotted⟩ := promise.2 calm reprints.2
    refine ⟨⟨.map keyStands.shaped stands.shaped, isMap ▸ rfl, fun broken => ?_⟩, dotted⟩
    have early := keyStands.breaks
    have late := stands.breaks
    have rows := And.intro next.row (And.intro second.row
      (And.intro keyPromise.1.row (And.intro third.row promise.1.row)))
    simp [Expr.pieces_mapType, Piece.breaks] at broken
    omega
  case h_5 kind isChan =>
    simp only [ends_bind, ends_bump, ends_eat, ends_pure]
    refine ⟨fun isArrow => ?_, fun noArrow => ?_⟩
    · have second := next.trans (.advance next.orderly)
      refine (shapes .type _ second.orderly).weaken fun element final promise calm reprints => ?_
      obtain ⟨stands, dotted⟩ := promise.2 calm reprints
      exact ⟨stands.chan (isChan ▸ rfl) (by rintro ⟨⟩) second.row, dotted⟩
    · refine (shapes .type _ next.orderly).weaken fun element final promise calm reprints => ?_
      obtain ⟨stands, dotted⟩ := promise.2 calm reprints
      exact ⟨stands.chan (isChan ▸ rfl) (fun _ => noArrow) next.row, dotted⟩
  case h_6 kind isArrow =>
    simp only [ends_bind, ends_bump, ends_expect, ends_pure]
    refine ⟨fun isChan => ?_, fun _ => trivial⟩
    have second := next.trans (.advance next.orderly)
    refine (shapes .type _ second.orderly).weaken fun element final promise calm reprints => ?_
    obtain ⟨stands, dotted⟩ := promise.2 calm reprints
    exact ⟨stands.chan (isArrow ▸ rfl) (by rintro ⟨⟩) second.row, dotted⟩
  case h_7 =>
    simp only [ends_bind, ends_bump, ends_pure]
    exact (ensures_trivial _ _).weaken fun _ _ _ _ => (by rintro ⟨⟩)
  case h_8 =>
    simp only [ends_bind, ends_bump, ends_pure]
    exact (ensures_trivial _ _).weaken fun _ _ _ _ => (by rintro ⟨⟩)
  case h_9 =>
    simp only [ends_bind, ends_bump, ends_pure]
    exact (ensures_trivial _ _).weaken fun _ _ _ _ => (by rintro ⟨⟩)
  case h_10 kind isParen =>
    simp only [ends_bind, ends_bump, ends_expect, ends_pure]
    refine (shapes .type _ next.orderly).weaken fun inner middle promise => ?_
    refine ⟨fun isClose calm reprints => ⟨?_, fun _ => rfl⟩, fun _ => trivial⟩
    obtain ⟨stands, -⟩ := promise.2 (calm_of isClose (by decide)) reprints
    have last := ParserState.Leads.advance promise.1.orderly
    exact stands.enclosed (.group stands.shaped) isParen next.row last.row
  case h_11 => exact trivial

/-! ## Operands joined by operators -/

theorem binary_shapes (shapes : below.Shapes) (floor : Nat) :
    (binary below floor).Promises state ((Production.binary floor).Shapes state) := by
  refine Forward.promises fun orderly => ?_
  simp only [binary, ends_bind]
  refine (shapes .unary _ orderly).weaken fun left middle leftPromise => ?_
  refine (shapes (.binaryTail floor left) _ leftPromise.1.orderly).weaken
    fun expr final promise calm reprints => ?_
  obtain ⟨leftCalm, loose, grown⟩ := promise.2 calm reprints
  have stands := leftPromise.2 leftCalm grown.reprints
  refine ⟨stands.grown grown ⟨.single stands.shaped, fun _ _ => .single stands.shaped⟩ ?_ ?_, loose⟩
  · exact leftPromise.1.row
  · exact promise.1.row

theorem binaryTail_shapes (shapes : below.Shapes) (floor : Nat) (left : Expr) :
    (binaryTail below floor left).Promises state
      ((Production.binaryTail floor left).Shapes state) := by
  refine Forward.promises fun orderly => ?_
  have next := ParserState.Leads.advance orderly
  unfold binaryTail
  simp only [ends_bind, ends_peek]
  split
  case h_1 op found =>
    simp only [ends_ite, ends_bind, ends_bump, ends_pure]
    refine ⟨fun loose calm reprints => ⟨calm, fun other isOther => ?_, .refl reprints And.left⟩,
      fun tight => ?_⟩
    · exact Option.some.inj (found.symm.trans isOther) ▸ loose
    · refine (shapes (.binary (op.precedence + 1)) _ next.orderly).weaken
        fun right middle rightPromise => ?_
      refine (shapes (.binaryTail floor (.binary left op right)) _
        rightPromise.1.orderly).weaken fun expr final promise calm reprints => ?_
      obtain ⟨middleCalm, loose, grown⟩ := promise.2 calm reprints
      have both := grown.reprints
      rw [Expr.reprints_binary, Bool.and_eq_true] at both
      obtain ⟨stands, rightLoose⟩ := rightPromise.2 middleCalm both.2
      have isMark : state.kind ≠ .error := by
        rw [BinaryOp.ofKind?_eq_some_iff.1 found]
        cases op <;> decide
      refine ⟨isMark, loose, both.1, fun needs => ?_, fun kind begins => ?_, fun broken => ?_⟩
      · have joined : ∀ floor, floor ≤ op.precedence →
            Shaped (.binary floor) (.binary left op right) :=
          fun floor binds => .joined binds (needs.2 op found) stands.shaped
        exact grown.shaped ⟨joined floor (Nat.le_of_not_lt tight),
          fun other isOther => joined _ (Nat.le_of_lt_succ (rightLoose other isOther))⟩
      · exact grown.lead kind (Piece.lead?_append begins)
      · have rightBreaks := stands.breaks
        have rows := And.intro next.row (And.intro rightPromise.1.row promise.1.row)
        have outer := grown.breaks broken
        simp only [Expr.pieces_binary, Piece.breaksIn_append, Piece.breaksIn_cons,
          Piece.breaks] at outer
        omega
  case h_2 nothing =>
    refine fun calm reprints => ⟨calm, fun op found => ?_, .refl reprints And.left⟩
    simp [nothing] at found

/-! ## Composite literals -/

theorem compositeBody_shapes (shapes : below.Shapes) (type : Option Expr) :
    (compositeBody below type).Promises state fun expr final =>
      ∃ elements multiline, expr = .composite type elements multiline ∧
        (expr.reprints = true → state.kind = .leftBrace ∧ (∀ e ∈ elements, Shaped .item e) ∧
          Flagged elements multiline ∧
            (breaksIn (Expr.innerPieces elements multiline) ≠ 0 → state.row < final.row)) := by
  refine Forward.promises fun orderly => ?_
  have next := ParserState.Leads.advance orderly
  simp only [compositeBody, ends_bind, ends_expect, ends_fresh, ends_get, ends_pure,
    ParserState.advance_setLevel, ParserState.token_setLevel]
  refine ⟨fun isOpen => ?_, fun _ => trivial⟩
  refine (shapes .elements (state.advance.setLevel 0) next.orderly).weaken
    fun elements middle promise => ⟨fun isClose calm => ?_, fun _ => trivial⟩
  have last := ParserState.Leads.advance promise.1.orderly
  have sameRows : ((middle.advance.lines.position state.token.offset).line !=
      (middle.advance.lines.position middle.token.offset).line) = (state.row != middle.row) := by
    rw [last.lines, ParserState.token_offset, ParserState.token_offset, ParserState.row,
      ParserState.row, promise.1.lines, ParserState.lines_setLevel, next.lines]
    rfl
  refine ⟨elements, _, rfl, fun reprints => ?_⟩
  rw [ParserState.lines_setLevel, sameRows] at reprints ⊢
  obtain ⟨filled, -, inside⟩ := Expr.reprints_composite.1 reprints
  obtain ⟨shaped, breaks⟩ := promise.2 (calm_of isClose (by decide)) inside
  have passed : breaksIn (Expr.listPieces elements) ≠ 0 → state.row < middle.row :=
    fun broken => next.row.trans_lt (breaks broken)
  have flagged : Flagged elements (state.row != middle.row) := by
    refine ⟨filled, fun flat => ?_⟩
    by_contra broken
    simp [Nat.ne_of_lt (passed broken)] at flat
  refine ⟨isOpen, shaped, flagged, fun broken => ?_⟩
  refine Nat.lt_of_lt_of_le ?_ last.row
  cases differ : state.row != middle.row with
  | true =>
      have apart : state.row ≠ middle.row := by simpa using differ
      exact Nat.lt_of_le_of_ne (next.row.trans promise.1.row) apart
  | false =>
      rw [differ] at broken
      exact passed broken

theorem element_shapes (shapes : below.Shapes) :
    (element below).Promises state (Production.element.Shapes state) := by
  refine Forward.promises fun orderly => ?_
  simp only [element, ends_bind, ends_at?, ends_ite]
  refine ⟨fun _ => ?_, fun _ => ?_⟩
  · refine (compositeBody_shapes shapes none orderly).weaken fun expr final promise calm reprints => ?_
    obtain ⟨elements, multiline, rfl, inside⟩ := promise.2 calm
    obtain ⟨isOpen, shaped, flagged, breaks⟩ := inside reprints
    refine ⟨.elided shaped flagged, isOpen ▸ rfl, fun broken => breaks ?_⟩
    simpa [Expr.pieces_composite, Piece.breaks] using broken
  · refine (shapes (.binary 1) _ orderly).weaken fun expr final promise calm reprints => ?_
    obtain ⟨stands, -⟩ := promise.2 calm reprints
    exact ⟨.value stands.shaped, stands.lead, stands.breaks⟩

/-- What may stand behind an entry of a list: a comma with further entries, or nothing. -/
theorem standAll_ended {α : Type} {others : Parser α} (entries : α → List Expr) {form : Form}
    {item : Expr} {now : ParserState}
    (behind : ∀ next, others.Promises next fun result final =>
      StandAll form next (entries result) final)
    (leads : state.Leads now)
    (shaped : now.kind ≠ .error → item.reprints = true →
      Shaped form item ∧ (breaksIn item.pieces ≠ 0 → state.row < now.row)) :
    (now.kind = .comma → others.Ensures now.advance fun result final =>
      final.kind ≠ .error → StandAll form state (item :: entries result) final) ∧
    (now.kind ≠ .comma → now.kind ≠ .error → StandAll form state [item] now) := by
  have next := ParserState.Leads.advance leads.orderly
  refine ⟨fun isComma => ?_, fun _ calm => .single (shaped calm) leads.row⟩
  refine (behind _ next.orderly).weaken fun result final promise calm => ?_
  exact .cons (shaped (calm_of isComma (by decide))) (promise.2 calm) leads.row next.row
    promise.1.row

theorem elements_shapes (shapes : below.Shapes) :
    (elements below).Promises state (Production.elements.Shapes state) := by
  refine Forward.promises fun orderly => ?_
  simp only [elements, ends_bind, ends_atAny, ends_ite, ends_eat, ends_pure, true_implies,
    not_true_eq_false, false_implies, and_true, Bool.false_eq_true, not_false_eq_true, true_and]
  refine ⟨fun _ _ => .nil, fun _ => ?_⟩
  refine (shapes .element _ orderly).weaken fun first middle firstPromise => ?_
  have next := ParserState.Leads.advance firstPromise.1.orderly
  refine ⟨fun isColon => ?_, fun _ =>
    standAll_ended id (shapes .elements) firstPromise.1 fun calm reprints => ?_⟩
  · refine (shapes .element _ next.orderly).weaken fun value now valuePromise => ?_
    refine standAll_ended id (shapes .elements) ((firstPromise.1.trans next).trans valuePromise.1)
      fun calm reprints => ?_
    rw [Expr.reprints_keyValue, Bool.and_eq_true] at reprints
    obtain ⟨shaped, lead, breaks⟩ := firstPromise.2 (calm_of isColon (by decide)) reprints.1
    obtain ⟨valueShaped, valueLead, valueBreaks⟩ := valuePromise.2 calm reprints.2
    refine ⟨.pair shaped valueShaped, fun broken => ?_⟩
    have rows := And.intro firstPromise.1.row (And.intro next.row valuePromise.1.row)
    simp only [Expr.pieces_keyValue, Piece.breaksIn_append, Piece.breaksIn_cons,
      Piece.breaks] at broken
    omega
  · obtain ⟨shaped, lead, breaks⟩ := firstPromise.2 calm reprints
    exact ⟨.entry shaped, breaks⟩

/-! ## Operands -/

omit [∀ production, Forward (below production)] in
/-- A type that opens with a bracket or a keyword, with what stands behind it. -/
theorem typeOperand_shapes (shapes : below.Shapes) (orderly : state.Orderly)
    (opens : state.kind ∉ [.identifier, .star, .leftParen]) :
    (below .type).Ensures state fun type middle =>
      (below (.primaryTail type)).Ensures middle fun expr final =>
        final.kind ≠ .error → expr.reprints = true → Stands .primary state expr final := by
  refine (shapes .type _ orderly).weaken fun type middle typePromise => ?_
  refine (shapes (.primaryTail type) _ typePromise.1.orderly).weaken
    fun expr final promise calm reprints => ?_
  obtain ⟨typeCalm, grown⟩ := promise.2 calm reprints
  obtain ⟨stands, dotted⟩ := typePromise.2 typeCalm grown.reprints
  obtain ⟨bare, takesDot⟩ := stands.bare dotted opens
  exact bare.grown grown ⟨bare.shaped, takesDot⟩ typePromise.1.row promise.1.row

theorem exprOrType_shapes (shapes : below.Shapes) :
    (exprOrType below).Promises state fun expr final =>
      expr.reprints = true → Stands .argument state expr final := by
  refine Forward.promises fun orderly => ?_
  simp only [exprOrType, ends_bind, ends_atAny, ends_ite]
  refine ⟨fun isType => ?_, fun noType => ?_⟩
  · have listed : state.kind ∈ [Kind.chanKw, .interfaceKw] := List.contains_iff_mem.1 isType
    have opens : ∀ kind ∈ [Kind.chanKw, .interfaceKw], kind ∉ [.identifier, .star, .leftParen] := by
      decide
    refine (typeOperand_shapes shapes orderly (opens _ listed)).weaken fun type middle read => ?_
    refine read.weaken fun expr final promise calm reprints => ?_
    have stands := promise calm reprints
    have isChan : state.kind = .chanKw := by
      have noInterface : Kind.interfaceKw ∉ Form.primary.leads := by decide
      rcases List.mem_pair.1 listed with isChan | isInterface
      · exact isChan
      · exact absurd (isInterface ▸ stands.kind_mem) noInterface
    exact ⟨.channel stands.shaped (isChan ▸ stands.lead), stands.lead, stands.breaks⟩
  · refine (shapes (.binary 1) _ orderly).weaken fun expr final promise calm reprints => ?_
    obtain ⟨stands, -⟩ := promise.2 calm reprints
    refine ⟨.plain stands.shaped fun begins => noType ?_, stands.lead, stands.breaks⟩
    rw [Option.some.inj (stands.lead.symm.trans begins)]
    rfl

theorem operand_shapes (shapes : below.Shapes) :
    (operand below).Promises state fun expr final =>
      expr.reprints = true → Stands .primary state expr final ∧ TakesDot expr final.kind := by
  refine Forward.promises fun orderly => ?_
  have next := ParserState.Leads.advance orderly
  unfold operand
  simp only [ends_bind, ends_peek]
  split
  case h_1 isName =>
    simp only [ends_bind, ends_ident, ends_pure]
    refine ⟨fun _ calm _ => ⟨?_, fun _ _ => rfl⟩, fun _ => trivial⟩
    obtain ⟨lexeme, breaks⟩ := orderly.name isName calm
    refine ⟨.name lexeme, isName ▸ rfl, fun broken => ?_⟩
    simp [Expr.pieces_ident, Piece.breaks] at broken
    omega
  case h_2 isParen =>
    simp only [ends_bind, ends_bump, ends_nested, ends_expect, ends_pure,
      ParserState.advance_setLevel]
    refine (exprOrType_shapes shapes (next.setLevel _).orderly).weaken
      fun inner middle promise => ⟨fun isClose calm reprints => ⟨?_, fun _ _ => rfl⟩, fun _ => trivial⟩
    have last := ParserState.Leads.advance promise.1.orderly
    have stands := promise.2 (calm_of isClose (by decide)) reprints
    exact stands.enclosed (.paren stands.shaped) isParen next.row last.row
  case h_3 =>
    simp only [ends_bind, ends_bump, ends_ite, ends_at?, ends_pure]
    refine (ensures_trivial _ _).weaken fun _ _ _ => ⟨fun _ => ?_, fun _ _ => (by rintro ⟨⟩)⟩
    exact (ensures_trivial _ _).weaken fun _ _ _ _ => (by rintro ⟨⟩)
  case h_9 kind _ _ _ _ _ _ _ _ =>
    split
    case h_1 literalKind found =>
      simp only [ends_bind, ends_bump, ends_pure]
      intro calm _
      have isLiteral : state.kind = literalKind.kind := LiteralKind.ofKind?_eq_some_iff.1 found
      have free : state.kind ∈ freeKinds := by rw [isLiteral]; cases literalKind <;> decide
      obtain ⟨lexeme, breaks⟩ := orderly.free free calm
      rw [isLiteral] at lexeme
      refine ⟨⟨.literal lexeme, isLiteral ▸ rfl, fun broken => ?_⟩, fun _ noNumber => ?_⟩
      · simp [Expr.pieces_literal, Piece.breaks, toLiteral] at broken
        omega
      · rw [Expr.takesDot, noNumber, Bool.not_false]
    case h_2 => exact trivial
  all_goals
    rename_i isType
    refine (shapes .type _ orderly).weaken fun type final promise calm reprints => ?_
    obtain ⟨stands, dotted⟩ := promise.2 calm reprints
    exact stands.bare dotted (isType ▸ by decide)

theorem unary_shapes (shapes : below.Shapes) :
    (unary below).Promises state (Production.unary.Shapes state) := by
  refine Forward.promises fun orderly => ?_
  have next := ParserState.Leads.advance orderly
  unfold unary
  simp only [ends_bind, ends_peek, ends_ite, ends_bump, ends_pure, ends_peekSecond]
  refine ⟨fun isStar => ?_, fun _ => ⟨fun isChannel => ?_, fun noChannel => ?_⟩⟩
  · refine (shapes .unary _ next.orderly).weaken fun inner final promise calm reprints => ?_
    have stands := promise.2 calm reprints
    exact stands.star (.star stands.shaped) isStar next.row
  · have opens : state.kind ∉ [.identifier, .star, .leftParen] := isChannel.1 ▸ by decide
    refine (typeOperand_shapes shapes orderly opens).weaken fun type middle read => ?_
    refine read.weaken fun expr final promise calm reprints => ?_
    have stands := promise calm reprints
    exact ⟨.operand stands.shaped, stands.lead, stands.breaks⟩
  · split
    case h_1 op found =>
      simp only [ends_bind, ends_bump, ends_pure]
      refine (shapes .unary _ next.orderly).weaken fun operand final promise calm reprints => ?_
      rw [Expr.reprints_unary, Bool.and_eq_true, Bool.not_eq_true'] at reprints
      obtain ⟨shaped, lead, breaks⟩ := promise.2 calm reprints.2
      have isMark : state.kind = op.kind := UnaryOp.ofKind?_eq_some_iff.1 found
      refine ⟨.prefixed shaped (fun receives begins => noChannel ⟨?_, ?_⟩) fun isAddress => ?_,
        isMark ▸ rfl, fun broken => next.row.trans_lt (breaks ?_)⟩
      · rw [isMark, receives]
        rfl
      · rw [← ParserState.kind_advance]
        exact Option.some.inj (lead.symm.trans begins)
      · simpa [isAddress] using reprints.1
      · rw [Expr.pieces_unary] at broken
        split at broken <;> simpa [Piece.breaks] using broken
    case h_2 =>
      simp only [ends_bind]
      refine (operand_shapes shapes orderly).weaken fun first middle firstPromise => ?_
      refine (shapes (.primaryTail first) _ firstPromise.1.orderly).weaken
        fun expr final promise calm reprints => ?_
      obtain ⟨firstCalm, grown⟩ := promise.2 calm reprints
      obtain ⟨stands, takesDot⟩ := firstPromise.2 firstCalm grown.reprints
      have result := stands.grown grown ⟨stands.shaped, takesDot⟩ firstPromise.1.row promise.1.row
      exact ⟨.operand result.shaped, result.lead, result.breaks⟩

theorem arguments_shapes (shapes : below.Shapes) :
    (arguments below).Promises state (Production.arguments.Shapes state) := by
  refine Forward.promises fun orderly => ?_
  simp only [arguments, ends_bind, ends_atAny, ends_ite, ends_eat, ends_pure, true_implies,
    not_true_eq_false, false_implies, and_true, Bool.false_eq_true, not_false_eq_true, true_and]
  refine ⟨fun _ _ => .nil, fun _ => ?_⟩
  refine (exprOrType_shapes shapes orderly).weaken fun first middle firstPromise => ?_
  have next := ParserState.Leads.advance firstPromise.1.orderly
  refine ⟨fun isSpread => ?_, fun _ => ?_⟩
  · refine standAll_ended Prod.fst (shapes .arguments) (firstPromise.1.trans next)
      fun _ reprints => ?_
    obtain ⟨shaped, -, breaks⟩ := firstPromise.2 (calm_of isSpread (by decide)) reprints
    exact ⟨shaped, fun broken => (breaks broken).trans_le next.row⟩
  · refine standAll_ended Prod.fst (shapes .arguments) firstPromise.1 fun calm reprints => ?_
    obtain ⟨shaped, -, breaks⟩ := firstPromise.2 calm reprints
    exact ⟨shaped, breaks⟩

/-! ## What stands behind an operand -/

theorem sliceBounds_shapes (shapes : below.Shapes) (base : Expr) (low : Option Expr) :
    (sliceBounds below base low).Promises state fun expr final =>
      ∃ high max, expr = .slice base low high max ∧
        (expr.reprints = true → state.kind = .colon ∧ (∀ e ∈ high, Shaped (.binary 1) e) ∧
          (∀ e ∈ max, Shaped (.binary 1) e) ∧
            (breaksIn (Expr.piecesOf high ++ Expr.maxPieces max) ≠ 0 → state.row < final.row)) := by
  refine Forward.promises fun orderly => ?_
  have next := ParserState.Leads.advance orderly
  simp only [sliceBounds, ends_bind, ends_expect, ends_atAny, ends_ite, ends_eat, ends_pure,
    true_implies, not_true_eq_false, false_implies, and_true, Bool.false_eq_true,
    not_false_eq_true, true_and]
  refine ⟨fun isColon => ?_, fun _ => trivial⟩
  have ended : ∀ (high : Option Expr) (now : ParserState), state.Leads now →
      (now.kind ≠ .error → high.all Expr.reprints = true → (∀ e ∈ high, Shaped (.binary 1) e) ∧
        (breaksIn (Expr.piecesOf high) ≠ 0 → state.row < now.row)) →
      (now.kind = .colon → (expr below).Ensures now.advance fun max final => final.kind ≠ .error →
        ∃ high' max', Expr.slice base low high (some max) = .slice base low high' max' ∧
          ((Expr.slice base low high (some max)).reprints = true → state.kind = .colon ∧
            (∀ e ∈ high', Shaped (.binary 1) e) ∧ (∀ e ∈ max', Shaped (.binary 1) e) ∧
              (breaksIn (Expr.piecesOf high' ++ Expr.maxPieces max') ≠ 0 →
                state.row < final.row))) ∧
      (now.kind ≠ .colon → now.kind ≠ .error →
        ∃ high' max', Expr.slice base low high none = .slice base low high' max' ∧
          ((Expr.slice base low high none).reprints = true → state.kind = .colon ∧
            (∀ e ∈ high', Shaped (.binary 1) e) ∧ (∀ e ∈ max', Shaped (.binary 1) e) ∧
              (breaksIn (Expr.piecesOf high' ++ Expr.maxPieces max') ≠ 0 →
                state.row < now.row))) := by
    intro high now leads shaped
    have behind := ParserState.Leads.advance leads.orderly
    refine ⟨fun isSecond => ?_, fun _ calm => ⟨high, none, rfl, fun reprints => ?_⟩⟩
    · refine (shapes (.binary 1) _ behind.orderly).weaken fun max final promise calm =>
        ⟨high, some max, rfl, fun reprints => ?_⟩
      rw [Expr.reprints_slice, Bool.and_eq_true, Bool.and_eq_true] at reprints
      obtain ⟨highShaped, highBreaks⟩ := shaped (calm_of isSecond (by decide)) reprints.1.2
      obtain ⟨stands, -⟩ := promise.2 calm reprints.2
      refine ⟨isColon, highShaped, fun e isMax => Option.some.inj isMax ▸ stands.shaped,
        fun broken => ?_⟩
      have maxBreaks := stands.breaks
      have rows := And.intro leads.row (And.intro behind.row promise.1.row)
      simp only [Piece.breaksIn_append, Expr.maxPieces, Piece.breaksIn_cons, Piece.breaks] at broken
      omega
    · rw [Expr.reprints_slice, Bool.and_eq_true, Bool.and_eq_true] at reprints
      obtain ⟨highShaped, highBreaks⟩ := shaped calm reprints.1.2
      exact ⟨isColon, highShaped, by simp, fun broken =>
        highBreaks (by simpa [Expr.maxPieces] using broken)⟩
  refine ⟨fun _ => ended none _ next fun _ _ => ⟨by simp, by simp⟩, fun _ => ?_⟩
  refine (shapes (.binary 1) _ next.orderly).weaken fun high middle promise => ?_
  refine ended (some high) middle (next.trans promise.1) fun calm reprints => ?_
  obtain ⟨stands, -⟩ := promise.2 calm reprints
  exact ⟨fun e isHigh => Option.some.inj isHigh ▸ stands.shaped,
    fun broken => next.row.trans_lt (stands.breaks broken)⟩

theorem indexOrSlice_shapes (shapes : below.Shapes) (base : Expr) :
    (indexOrSlice below base).Promises state fun expr final => expr.reprints = true →
      expr.takesDot = true ∧ Grown (Shaped .primary base) .primary state base expr final := by
  refine Forward.promises fun orderly => ?_
  simp only [indexOrSlice, ends_bind, ends_at?, ends_ite, ends_pure]
  have lead : ∀ (low high max : Option Expr) (kind : Kind), base.lead? = some kind →
      (Expr.slice base low high max).lead? = some kind := by
    intro low high max kind begins
    rw [Expr.lead?, Expr.pieces_slice]
    simp only [List.append_assoc]
    exact Piece.lead?_append begins
  refine ⟨fun _ => ?_, fun _ => ?_⟩
  · refine (sliceBounds_shapes shapes base none orderly).weaken
      fun expr final promise calm reprints => ?_
    obtain ⟨high, max, rfl, bounds⟩ := promise.2 calm
    obtain ⟨-, highShaped, maxShaped, breaks⟩ := bounds reprints
    simp only [Expr.reprints_slice, Bool.and_eq_true] at reprints
    refine ⟨rfl, reprints.1.1.1, fun primary => .slice primary (by simp) highShaped maxShaped,
      lead _ _ _, fun broken => ?_⟩
    simp only [Expr.pieces_slice, Expr.piecesOf_none, Piece.breaksIn_append, Piece.breaksIn_cons,
      Piece.breaksIn_nil, Piece.breaks] at broken breaks
    omega
  · refine (shapes (.binary 1) _ orderly).weaken fun low middle lowPromise => ?_
    refine ⟨fun _ => ?_, fun _ calm reprints => ?_⟩
    · refine (sliceBounds_shapes shapes base (some low) lowPromise.1.orderly).weaken
        fun expr final promise calm reprints => ?_
      obtain ⟨high, max, rfl, bounds⟩ := promise.2 calm
      obtain ⟨isColon, highShaped, maxShaped, breaks⟩ := bounds reprints
      simp only [Expr.reprints_slice, Bool.and_eq_true] at reprints
      obtain ⟨stands, -⟩ := lowPromise.2 (calm_of isColon (by decide)) reprints.1.1.2
      refine ⟨rfl, reprints.1.1.1, fun primary => .slice primary
        (fun e isLow => Option.some.inj isLow ▸ stands.shaped) highShaped maxShaped, lead _ _ _,
        fun broken => ?_⟩
      have lowBreaks := stands.breaks
      have rows := And.intro lowPromise.1.row promise.1.row
      simp only [Expr.pieces_slice, Expr.piecesOf_some, Piece.breaksIn_append, Piece.breaksIn_cons,
        Piece.breaksIn_nil, Piece.breaks] at broken breaks
      omega
    · rw [Expr.reprints_index, Bool.and_eq_true] at reprints
      obtain ⟨stands, -⟩ := lowPromise.2 calm reprints.2
      refine ⟨rfl, reprints.1, fun primary => .index primary stands.shaped, fun kind begins => ?_,
        fun broken => ?_⟩
      · rw [Expr.lead?, Expr.pieces_index, List.append_assoc]
        exact Piece.lead?_append begins
      · have breaks := stands.breaks
        simp only [Expr.pieces_index, Piece.breaksIn_append, Piece.breaksIn_cons,
          Piece.breaksIn_nil, Piece.breaks] at broken
        omega

theorem selectorOrAssertion_shapes (shapes : below.Shapes) (base : Expr) :
    (selectorOrAssertion below base).Promises state fun expr final => expr.reprints = true →
      expr.takesDot = true ∧
        Grown (Shaped .primary base ∧ TakesDot base .dot) .primary state base expr final := by
  refine Forward.promises fun orderly => ?_
  have next := ParserState.Leads.advance orderly
  have second := ParserState.Leads.advance next.orderly
  have third := ParserState.Leads.advance second.orderly
  have fourth := ParserState.Leads.advance third.orderly
  have lead : ∀ (type : Option Expr) (kind : Kind), base.lead? = some kind →
      (Expr.assertion base type).lead? = some kind := by
    intro type kind begins
    rw [Expr.lead?, Expr.pieces_assertion, List.append_assoc]
    exact Piece.lead?_append begins
  simp only [selectorOrAssertion, ends_bind, ends_expect, ends_at?, ends_ite, ends_ident, ends_eat,
    ends_pure, true_implies, not_true_eq_false, false_implies, and_true, Bool.false_eq_true,
    not_false_eq_true, true_and]
  refine ⟨fun _ => ⟨fun _ => ⟨fun isName calm reprints => ⟨rfl, ?_⟩, fun _ => trivial⟩,
    fun _ => ⟨fun _ => ⟨fun _ => ⟨fun _ calm reprints => ⟨rfl, ?_⟩, fun _ => trivial⟩,
      fun _ => ?_⟩, fun _ => trivial⟩⟩, fun _ => trivial⟩
  · rw [Expr.reprints_selector, Bool.and_eq_true, Bool.not_eq_true'] at reprints
    obtain ⟨lexeme, breaks⟩ := next.orderly.name isName calm
    refine ⟨reprints.2, fun needs => .selector needs.1 (needs.2 rfl reprints.1) lexeme,
      fun kind begins => Piece.lead?_append begins, fun broken => ?_⟩
    have row := next.row
    simp only [Expr.pieces_selector, Piece.breaksIn_append, Piece.breaksIn_cons,
      Piece.breaksIn_nil, Piece.breaks] at broken
    omega
  · simp only [Expr.reprints_assertion, Bool.and_eq_true, Bool.not_eq_true'] at reprints
    refine ⟨reprints.1.2, fun needs => .assertion needs.1 (needs.2 rfl reprints.1.1) (by simp), lead _,
      fun broken => .inl ?_⟩
    simpa [Expr.pieces_assertion, Expr.assertedPieces, Piece.breaks] using broken
  · refine (shapes .type _ second.orderly).weaken fun type middle promise =>
      ⟨fun isClose calm reprints => ⟨rfl, ?_⟩, fun _ => trivial⟩
    have last := ParserState.Leads.advance promise.1.orderly
    simp only [Expr.reprints_assertion, Bool.and_eq_true, Bool.not_eq_true'] at reprints
    obtain ⟨stands, -⟩ := promise.2 (calm_of isClose (by decide)) reprints.2
    refine ⟨reprints.1.2, fun needs => .assertion needs.1 (needs.2 rfl reprints.1.1)
      fun e isType => Option.some.inj isType ▸ stands.shaped, lead _, fun broken => ?_⟩
    have breaks := stands.breaks
    have rows := And.intro next.row (And.intro second.row last.row)
    simp only [Expr.pieces_assertion, Expr.assertedPieces, Piece.breaksIn_append,
      Piece.breaksIn_cons, Piece.breaksIn_nil, Piece.breaks] at broken
    omega

/-- What is read on from a longer operand is read on from the shorter one in it. -/
theorem grown_trans {needs : Prop} {middle final : ParserState} {operand next expr : Expr}
    (first : Grown needs .primary state operand next middle) (dot : next.takesDot = true)
    (second : Grown (Shaped .primary next ∧ TakesDot next middle.kind) .primary middle next expr
      final) (before : state.row ≤ middle.row) (behind : middle.row ≤ final.row) :
    Grown needs .primary state operand expr final := by
  refine ⟨first.reprints, fun meets => second.shaped ⟨first.shaped meets, fun _ _ => dot⟩,
    fun kind begins => second.lead kind (first.lead kind begins), fun broken => ?_⟩
  have early := first.breaks
  have late := second.breaks broken
  omega

theorem primaryTail_shapes (shapes : below.Shapes) (operand : Expr) :
    (primaryTail below operand).Promises state
      ((Production.primaryTail operand).Shapes state) := by
  refine Forward.promises fun orderly => ?_
  have next := ParserState.Leads.advance orderly
  have onward : ∀ (expr : Expr) (now : ParserState), state.Leads now → state.kind ≠ .error →
      (now.kind ≠ .error → expr.reprints = true → expr.takesDot = true ∧
        Grown (Shaped .primary operand ∧ TakesDot operand state.kind) .primary state operand expr
          now) →
      (below (.primaryTail expr)).Ensures now fun result final => final.kind ≠ .error →
        (Production.primaryTail operand).Shapes state result final := by
    intro expr now leads calm grown
    refine (shapes (.primaryTail expr) _ leads.orderly).weaken
      fun result final promise finalCalm reprints => ⟨calm, ?_⟩
    obtain ⟨nowCalm, second⟩ := promise.2 finalCalm reprints
    obtain ⟨dot, first⟩ := grown nowCalm second.reprints
    exact grown_trans first dot second leads.row promise.1.row
  unfold primaryTail
  simp only [ends_bind, ends_peek]
  split
  case h_1 isDot =>
    simp only [ends_bind]
    refine (selectorOrAssertion_shapes shapes operand orderly).weaken fun expr now promise => ?_
    exact onward expr now promise.1 (calm_of isDot (by decide)) (isDot ▸ promise.2)
  case h_2 isBracket =>
    simp only [ends_bind, ends_bump, ends_nested, ends_expect, ParserState.advance_setLevel]
    refine (indexOrSlice_shapes shapes operand (next.setLevel _).orderly).weaken
      fun expr middle promise => ⟨fun isClose => ?_, fun _ => trivial⟩
    have last := ParserState.Leads.advance promise.1.orderly
    have leads := ((next.setLevel _).trans (promise.1.trans last)).setLevel (middle.level - 1)
    refine onward expr _ leads (calm_of isBracket (by decide)) fun _ reprints => ?_
    obtain ⟨dot, grown⟩ := promise.2 (calm_of isClose (by decide)) reprints
    refine ⟨dot, grown.reprints, fun needs => grown.shaped needs.1, grown.lead, fun broken => ?_⟩
    refine (grown.breaks broken).imp_right fun later => ?_
    exact (next.row.trans_lt later).trans_le last.row
  case h_3 isParen =>
    simp only [ends_bind, ends_bump, ends_nested, ends_expect, ParserState.advance_setLevel]
    refine (shapes .arguments _ (next.setLevel _).orderly).weaken
      fun arguments middle promise => ⟨fun isClose => ?_, fun _ => trivial⟩
    have last := ParserState.Leads.advance promise.1.orderly
    have leads := ((next.setLevel _).trans (promise.1.trans last)).setLevel (middle.level - 1)
    refine onward _ _ leads (calm_of isParen (by decide)) fun _ reprints => ⟨rfl, ?_⟩
    rw [Expr.reprints_call, Bool.and_eq_true, Bool.and_eq_true, Bool.not_eq_true'] at reprints
    obtain ⟨⟨single, callee⟩, inside⟩ := reprints
    obtain ⟨shaped, breaks⟩ := promise.2 (calm_of isClose (by decide)) inside
    refine ⟨callee, fun needs => single ▸ .call needs.1 shaped, fun kind begins => ?_,
      fun broken => ?_⟩
    · rw [Expr.lead?, Expr.pieces_call]
      simp only [List.append_assoc]
      exact Piece.lead?_append begins
    · simp only [single, Expr.pieces_call, Piece.breaksIn_append, Piece.breaksIn_cons, Piece.breaks,
        Piece.breaksIn_nil, Bool.false_eq_true, if_false] at broken
      have passed : breaksIn (Expr.listPieces arguments.1) ≠ 0 → state.row < middle.advance.row :=
        fun later => (next.row.trans_lt (breaks later)).trans_le last.row
      refine or_iff_not_imp_left.2 fun flat => passed ?_
      omega
  case h_4 isBrace =>
    simp only [ends_bind, ends_get, ends_ite, ends_pure]
    refine ⟨fun isType => ?_, fun _ calm reprints => ⟨calm, .refl reprints And.left⟩⟩
    refine (compositeBody_shapes shapes (some operand) orderly).weaken fun expr now promise => ?_
    refine onward expr now promise.1 (calm_of isBrace (by decide)) fun calm reprints => ?_
    obtain ⟨elements, multiline, rfl, inside⟩ := promise.2 calm
    obtain ⟨-, shaped, flagged, breaks⟩ := inside reprints
    obtain ⟨-, typeReprints, -⟩ := Expr.reprints_composite.1 reprints
    rw [Bool.and_eq_true] at isType
    refine ⟨rfl, typeReprints operand rfl, fun needs => .composite needs.1 isType.1 shaped flagged,
      fun kind begins => ?_, fun broken => ?_⟩
    · rw [Expr.lead?, Expr.pieces_composite, List.append_assoc]
      exact Piece.lead?_append begins
    · simp only [Expr.pieces_composite, Expr.piecesOf_some, Piece.breaksIn_append,
        Piece.breaksIn_cons, Piece.breaks, Piece.breaksIn_nil] at broken
      refine or_iff_not_imp_left.2 fun flat => breaks ?_
      omega
  case h_5 => exact fun calm reprints => ⟨calm, .refl reprints And.left⟩

theorem exprTail_shapes (shapes : below.Shapes) :
    (exprTail below).Promises state (Production.exprTail.Shapes state) := by
  refine Forward.promises fun orderly => ?_
  have next := ParserState.Leads.advance orderly
  simp only [exprTail, ends_bind, ends_eat, ends_ite, ends_pure, true_implies, not_true_eq_false,
    false_implies, and_true, Bool.false_eq_true, not_false_eq_true, true_and]
  refine ⟨fun isComma => ?_, fun _ calm => ⟨calm, by simp⟩⟩
  refine (shapes (.binary 1) _ next.orderly).weaken fun expr middle exprPromise => ?_
  refine (shapes .exprTail _ exprPromise.1.orderly).weaken fun exprs final promise calm => ?_
  obtain ⟨middleCalm, others⟩ := promise.2 calm
  refine ⟨calm_of isComma (by decide), List.forall_mem_cons.2 ⟨fun reprints => ?_, others⟩⟩
  exact (exprPromise.2 middleCalm reprints).1.shaped

end Grammar

namespace Production

/-- Every production keeps its promise if those below it do. -/
theorem body_shapes {below : Reader} [∀ production, Forward (below production)]
    (shapes : below.Shapes) (production : Production) (state : ParserState) :
    (production.body below).Promises state (production.Shapes state) := by
  have forward := body_forward below production
  cases production with
  | binary floor => exact Grammar.binary_shapes shapes floor
  | binaryTail floor left => exact Grammar.binaryTail_shapes shapes floor left
  | unary => exact Grammar.unary_shapes shapes
  | primaryTail operand => exact Grammar.primaryTail_shapes shapes operand
  | exprTail => exact Grammar.exprTail_shapes shapes
  | arguments => exact Grammar.arguments_shapes shapes
  | elements => exact Grammar.elements_shapes shapes
  | element => exact Grammar.element_shapes shapes
  | type => exact Grammar.type_shapes shapes
  | _ => exact Forward.promises fun _ => (ensures_trivial _ _).weaken fun _ _ _ _ => trivial

/-- However deeply productions may nest, what is read is shaped. -/
theorem read_shapes (bound : Nat) : Reader.Shapes (Production.read bound) := by
  induction bound with
  | zero => exact fun production state _ => trivial
  | succ bound ih => exact fun production state => body_shapes ih production state

end Production

end GoMend
