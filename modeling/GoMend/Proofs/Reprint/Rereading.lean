import GoMend.Proofs.Reprint.Rereads

/-!
# Shaped trees are read back

The words of a shaped tree are read back as the tree, up to positions.  Operands and operators
are read on from what stands before them, so for these the statement tells what follows if the
tail is read well.
-/

namespace GoMend

open Lexed (headKind)
open Piece (Placed breaksIn wordsIn placed_append)
open Production (read)

namespace Rereading

/-- How deeply the productions nest that read the tree: a bound that allows for more than each
word needs. -/
def cost (expr : Expr) : Nat :=
  16 * wordsIn expr.pieces

/-- A result that is the tree up to positions. -/
def Same (expr result : Expr) : Prop :=
  result.unplaced = expr.unplaced

/-- The words behind which nothing belongs to an operand. -/
def Ends (kind : Kind) : Prop :=
  kind ∉ [.dot, .leftBracket, .leftParen, .leftBrace]

instance (kind : Kind) : Decidable (Ends kind) :=
  inferInstanceAs (Decidable (kind ∉ _))

/-- The words behind which nothing belongs to an expression. -/
def closings : List Kind :=
  [.rightParen, .rightBracket, .rightBrace, .comma, .colon, .semicolon]

theorem ends_of_closing {kind : Kind} (closes : kind ∈ closings) : Ends kind := by
  have tested : ∀ kind ∈ closings, Ends kind := by decide
  exact tested kind closes

theorem loose_of_closing {kind : Kind} {floor : Nat} (closes : kind ∈ closings) :
    Loose floor kind := by
  have tested : ∀ kind ∈ closings, BinaryOp.ofKind? kind = none := by decide
  intro op found
  simp [tested kind closes] at found

/-! ## What is read back at each place -/

section

variable (lines : LineIndex) (expr : Expr)

/-- The tree is read as an operand, and what stands behind it is read on. -/
def OfPrimary : Prop :=
  ∀ ⦃level row ahead middle good rest bound⦄ (least : Nat), 0 ≤ level →
    Placed lines row expr.pieces ahead middle →
    (headKind middle = .dot → expr.takesDot = true) → least + cost expr ≤ bound →
    (∀ result more, Same expr result → least ≤ more →
      Rereads lines level (read more (.primaryTail result)) middle good rest) →
    Rereads lines level (Grammar.unary (read bound)) ahead good rest

def OfUnary : Prop :=
  ∀ ⦃level row ahead rest bound⦄, 0 ≤ level → Placed lines row expr.pieces ahead rest →
    Ends (headKind rest) → cost expr + 2 ≤ bound →
    Rereads lines level (read bound .unary) ahead (Same expr) rest

/-- The tree is read as operands joined by operators, and what stands behind it is read on. -/
def OfBinary (binds : Nat) : Prop :=
  ∀ ⦃level row ahead middle good rest bound⦄ (floor least : Nat), 0 ≤ level → floor ≤ binds →
    Placed lines row expr.pieces ahead middle → Ends (headKind middle) →
    Loose (binds + 1) (headKind middle) → least + cost expr + 4 ≤ bound →
    (∀ result more, Same expr result → least ≤ more →
      Rereads lines level (read more (.binaryTail floor result)) middle good rest) →
    Rereads lines level (Grammar.binary (read bound) floor) ahead good rest

def OfType : Prop :=
  ∀ ⦃level row ahead rest bound⦄, 0 ≤ level → Placed lines row expr.pieces ahead rest →
    (headKind rest = .dot → expr.endsInName = false) → cost expr ≤ bound →
    Rereads lines level (read bound .type) ahead (Same expr) rest

def OfArgument : Prop :=
  ∀ ⦃level row ahead rest bound⦄, 0 ≤ level → Placed lines row expr.pieces ahead rest →
    headKind rest ∈ closings → cost expr + 6 ≤ bound →
    Rereads lines level (Grammar.exprOrType (read bound)) ahead (Same expr) rest

def OfElement : Prop :=
  ∀ ⦃level row ahead rest bound⦄, 0 ≤ level → Placed lines row expr.pieces ahead rest →
    headKind rest ∈ closings → cost expr + 8 ≤ bound →
    Rereads lines level (read bound .element) ahead (Same expr) rest

def OfItem : Prop :=
  OfElement lines expr ∨ ∃ key value, expr = .keyValue key value ∧ OfElement lines key ∧
    OfElement lines value

/-- How the tree is read back at a place. -/
def Of : Form → Prop
  | .primary => OfPrimary lines expr
  | .unary => OfUnary lines expr
  | .binary binds => OfBinary lines expr binds
  | .type => OfType lines expr
  | .argument => OfArgument lines expr
  | .element => OfElement lines expr
  | .item => OfItem lines expr

end

variable {lines : LineIndex} {level : Int} {row bound : Nat} {ahead middle rest : List Token}
  {expr : Expr}

/-- A production below the bound is run by its body. -/
theorem run {production : Production} {good : production.Result → Prop} (enough : 0 < bound)
    (behind : ∀ less, bound = less + 1 →
      Rereads lines level (production.body (read less)) ahead good rest) :
    Rereads lines level (read bound production) ahead good rest := by
  cases bound with
  | zero => exact absurd enough (Nat.lt_irrefl 0)
  | succ less => exact behind less rfl

/-- The first word of a layout is the first word ahead. -/
theorem headKind_of_placed {pieces : List Piece} {kind : Kind}
    (placed : Placed lines row pieces ahead rest) (lead : Piece.lead? pieces = some kind) :
    headKind ahead = kind := by
  induction pieces generalizing row with
  | nil => cases lead
  | cons piece pieces ih =>
      cases isWord : piece.word? with
      | none =>
          rw [Placed, isWord] at placed
          exact ih placed (by simpa [Piece.lead?, isWord] using lead)
      | some word =>
          rw [Placed, isWord] at placed
          obtain ⟨offset, behind, rfl, -, -⟩ := placed
          simpa [Piece.lead?, isWord, headKind] using lead

/-- The first word of a shaped tree is none that begins no tree. -/
theorem headKind_ne {form : Form} {kind : Kind} (shaped : Shaped form expr)
    (placed : Placed lines row expr.pieces ahead rest) (other : kind ∉ Form.item.leads) :
    headKind ahead ≠ kind := by
  obtain ⟨lead, listed, begins⟩ := shaped.lead_mem
  rw [headKind_of_placed placed begins]
  exact fun same => other (same ▸ Form.leads_subset form listed)

/-- Operands joined by operators are read as a whole before a word that does not go on with
them. -/
theorem whole {binds : Nat} (reads : OfBinary lines expr binds) (free : 0 ≤ level)
    (placed : Placed lines row expr.pieces ahead rest) (ends : Ends (headKind rest))
    (loose : Loose binds (headKind rest)) (enough : cost expr + 6 ≤ bound) :
    Rereads lines level (read bound (.binary binds)) ahead (Same expr) rest := by
  refine run (by omega) fun less isLess => ?_
  refine reads binds 1 free (Nat.le_refl _) placed ends (fun op found => ?_) (by omega) ?_
  · exact Nat.lt_succ_of_lt (loose op found)
  · refine fun result more same enough => run enough fun less isLess => ?_
    show Rereads lines level (Grammar.binaryTail (read less) binds result) rest (Same expr) rest
    unfold Grammar.binaryTail
    refine .peek ?_
    split
    · rename_i op found
      rw [if_pos (loose op found)]
      exact .pure same
    · exact .pure same

/-- An expression is read before a word that closes it. -/
theorem closed (reads : OfBinary lines expr 1) (free : 0 ≤ level)
    (placed : Placed lines row expr.pieces ahead rest) (closes : headKind rest ∈ closings)
    (enough : cost expr + 6 ≤ bound) :
    Rereads lines level (Grammar.expr (read bound)) ahead (Same expr) rest :=
  whole reads free placed (ends_of_closing closes) (loose_of_closing closes) enough

/-! ## Operands -/

/-- An operand is read, unless a star or a channel stands ahead. -/
theorem unary_operand {good : Expr → Prop} (kind : Kind) (here : headKind ahead = kind)
    (lead : kind ∈ Form.operandLeads) (noArrow : kind ≠ .arrow)
    (operand : Rereads lines level (Grammar.operand (read bound)) ahead (Same expr) middle)
    (behind : ∀ result, Same expr result →
      Rereads lines level (read bound (.primaryTail result)) middle good rest) :
    Rereads lines level (Grammar.unary (read bound)) ahead good rest := by
  unfold Grammar.unary
  refine .peekAt here ?_
  have tested : ∀ kind ∈ Form.operandLeads, kind ≠ .star ∧
      (kind ≠ .arrow → UnaryOp.ofKind? kind = none) := by
    decide
  obtain ⟨noStar, noOperator⟩ := tested kind lead
  rw [if_neg noStar]
  refine .peekSecond ?_
  rw [if_neg (noArrow ·.1), noOperator noArrow]
  exact .bind _ operand behind

theorem name_ofPrimary {name : Ident} : OfPrimary lines (.ident name) := by
  intro level row ahead middle good rest bound least free placed _ enough behind
  obtain ⟨offset, after, rfl, -, rfl⟩ := placed
  have operand : Rereads lines level (Grammar.operand (read bound))
      (⟨.identifier, name.name, offset⟩ :: after) (Same (.ident name)) after := by
    unfold Grammar.operand
    exact .peek (.ident rfl (.pure rfl))
  exact unary_operand .identifier rfl (by decide) (by decide) operand fun result same =>
    behind result _ same (Nat.le_of_add_right_le enough)

theorem literal_ofPrimary {value : Literal} : OfPrimary lines (.literal value) := by
  intro level row ahead middle good rest bound least free placed _ enough behind
  obtain ⟨offset, after, rfl, -, rfl⟩ := placed
  have operand : Rereads lines level (Grammar.operand (read bound))
      (⟨value.kind.kind, value.text, offset⟩ :: after) (Same (.literal value)) after := by
    unfold Grammar.operand
    refine .peek ?_
    obtain ⟨kind, text, place⟩ := value
    cases kind <;> exact .bump (.pure rfl)
  have lead : value.kind.kind ∈ Form.operandLeads ∧ value.kind.kind ≠ .arrow := by
    cases value.kind <;> decide
  exact unary_operand _ rfl lead.1 lead.2 operand fun result same =>
    behind result _ same (Nat.le_of_add_right_le enough)

theorem paren_ofPrimary {inner : Expr} (inside : OfArgument lines inner) :
    OfPrimary lines (.paren inner) := by
  intro level row ahead middle good rest bound least free placed _ enough behind
  rw [Expr.pieces_paren, List.cons_append, Piece.placed_mark] at placed
  obtain ⟨offset, after, rfl, -, placed⟩ := placed
  obtain ⟨_, first, closeOffset, behindClose, rfl, -, rfl⟩ := placed_append.1 placed
  have size : cost (.paren inner) = cost inner + 32 := by
    simp [cost, Expr.pieces_paren]
    omega
  have operand : Rereads lines level (Grammar.operand (read bound))
      (⟨.leftParen, Kind.leftParen.spelling, offset⟩ :: after) (Same (.paren inner)) behindClose := by
    unfold Grammar.operand
    refine .peek (.bump (.bind _ (.nested (inside ?_ first ?_ ?_)) fun result same => ?_))
    · omega
    · show Kind.rightParen ∈ closings
      decide
    · omega
    · refine .expect rfl (.pure ?_)
      rw [Same, Expr.unplaced_paren, Expr.unplaced_paren, same]
  exact unary_operand .leftParen rfl (by decide) (by decide) operand fun result same =>
    behind result _ same (Nat.le_of_add_right_le enough)

/-! ## What stands behind an operand -/

/-- An operand with a suffix is read if the tail reads the suffix behind the operand. -/
theorem suffix_ofPrimary {base : Expr} {suffix : List Piece} {kind : Kind}
    (reads : OfPrimary lines base) (layout : expr.pieces = base.pieces ++ suffix)
    (lead : Piece.lead? suffix = some kind) (words : 0 < wordsIn suffix)
    (dot : kind = .dot → base.takesDot = true)
    (step : ∀ ⦃level row ahead middle good rest less⦄ result, 0 ≤ level →
      Placed lines row suffix ahead middle → Same base result →
      16 * wordsIn suffix ≤ less + 1 →
      (∀ next, Same expr next →
        Rereads lines level (read less (.primaryTail next)) middle good rest) →
      Rereads lines level (Grammar.primaryTail (read less) result) ahead good rest) :
    OfPrimary lines expr := by
  intro level row ahead middle good rest bound least free placed _ enough behind
  rw [layout] at placed
  obtain ⟨between, first, second⟩ := placed_append.1 placed
  have size : cost expr = cost base + 16 * wordsIn suffix := by
    rw [cost, layout, Piece.wordsIn_append, Nat.mul_add, cost]
  refine reads (least + 16 * wordsIn suffix) free first (fun isDot => dot ?_) (by omega) ?_
  · exact (headKind_of_placed second lead).symm.trans isDot
  · refine fun result more same enough => run (by omega) fun less isLess => ?_
    exact step result free second same (by omega) fun next isNext =>
      behind next less isNext (by omega)

theorem selector_ofPrimary {base : Expr} {name : Ident} (reads : OfPrimary lines base)
    (dot : base.takesDot = true) : OfPrimary lines (.selector base name) := by
  refine suffix_ofPrimary reads (Expr.pieces_selector base name) rfl (by simp) (fun _ => dot) ?_
  intro level row ahead middle good rest less result free placed same enough behind
  obtain ⟨dotOffset, _, rfl, -, nameOffset, _, rfl, -, rfl⟩ := placed
  unfold Grammar.primaryTail
  refine .peek (.bind (Same (.selector base name)) ?_ behind)
  unfold Grammar.selectorOrAssertion
  refine .expect rfl (.ifAt rfl (.ident rfl (.pure ?_)))
  rw [Same, Expr.unplaced_selector, Expr.unplaced_selector, same]

theorem assertion_ofPrimary {base : Expr} {type : Option Expr} (reads : OfPrimary lines base)
    (dot : base.takesDot = true) (asserted : ∀ e ∈ type, Shaped .type e)
    (inside : ∀ e ∈ type, OfType lines e) : OfPrimary lines (.assertion base type) := by
  have layout : (Expr.assertion base type).pieces = base.pieces ++
      (.mark .dot :: .mark .leftParen ::
        (Expr.assertedPieces type ++ [Piece.mark .rightParen])) := by
    rw [Expr.pieces_assertion, List.append_assoc]
    rfl
  refine suffix_ofPrimary reads layout rfl (by simp) (fun _ => dot) ?_
  intro level row ahead middle good rest less result free placed same enough behind
  obtain ⟨dotOffset, _, rfl, -, openOffset, after, rfl, -, placed⟩ := placed
  obtain ⟨_, first, closeOffset, _, rfl, -, rfl⟩ := placed_append.1 placed
  unfold Grammar.primaryTail
  refine .peek (.bind (Same (.assertion base type)) ?_ behind)
  unfold Grammar.selectorOrAssertion
  dsimp only
  refine .expect rfl (.unlessAt nofun (.expect rfl ?_))
  cases type with
  | none =>
      obtain ⟨typeOffset, _, rfl, -, rfl⟩ := first
      refine .ifEat rfl (.known (.expect rfl (.pure ?_)))
      rw [Same, Expr.unplaced_assertion, Expr.unplaced_assertion, same]
  | some type =>
      have size : 16 * (wordsIn type.pieces + 3) ≤ less + 1 := by
        simpa [Expr.assertedPieces] using enough
      refine .unlessEat (headKind_ne (asserted type rfl) first (by decide)) ?_
      refine .bind _ (inside type rfl free first (fun isDot => by cases isDot) ?_)
        fun newType sameType => .known (.expect rfl (.pure ?_))
      · rw [cost]
        omega
      · rw [Same, Expr.unplaced_assertion, Expr.unplaced_assertion, same, Option.map_some,
          Option.map_some, sameType]

theorem index_ofPrimary {base position : Expr} (reads : OfPrimary lines base)
    (shaped : Shaped (.binary 1) position) (inside : OfBinary lines position 1) :
    OfPrimary lines (.index base position) := by
  have layout : (Expr.index base position).pieces = base.pieces ++
      (.mark .leftBracket :: (position.pieces ++ [Piece.mark .rightBracket])) := by
    rw [Expr.pieces_index, List.append_assoc]
    rfl
  refine suffix_ofPrimary reads layout rfl (by simp) nofun ?_
  intro level row ahead middle good rest less result free placed same enough behind
  obtain ⟨openOffset, after, rfl, -, placed⟩ := placed
  obtain ⟨_, first, closeOffset, afterClose, rfl, -, rfl⟩ := placed_append.1 placed
  have size : 16 * (wordsIn position.pieces + 2) ≤ less + 1 := by simpa using enough
  have inner : Rereads lines (level + 1) (Grammar.indexOrSlice (read less) result) after
      (Same (.index base position))
      (⟨.rightBracket, Kind.rightBracket.spelling, closeOffset⟩ :: afterClose) := by
    unfold Grammar.indexOrSlice
    refine .unlessAt (headKind_ne shaped first (by decide)) ?_
    refine .bind _ (closed inside (by omega) first ?_ ?_) fun low sameLow =>
      .unlessAt nofun (.pure ?_)
    · show Kind.rightBracket ∈ closings
      decide
    · rw [cost]
      omega
    · rw [Same, Expr.unplaced_index, Expr.unplaced_index, same, sameLow]
  unfold Grammar.primaryTail
  exact .peek (.bump (.bind _ (.nested inner) fun next isNext => .expect rfl (behind next isNext)))

/-- The bounds of a slice that was read, up to positions. -/
def SameBounds (base : Expr) (low high max : Option Expr) (result : Expr) : Prop :=
  ∃ high' max', result = .slice base low high' max' ∧
    high'.map Expr.unplaced = high.map Expr.unplaced ∧
      max'.map Expr.unplaced = max.map Expr.unplaced

theorem sliceMax_rereads {high high' max : Option Expr} (base : Expr) (low : Option Expr)
    (free : 0 ≤ level) (sameHigh : high'.map Expr.unplaced = high.map Expr.unplaced)
    (reads : ∀ e ∈ max, OfBinary lines e 1)
    (placed : Placed lines row (Expr.maxPieces max) ahead rest)
    (closes : headKind rest = .rightBracket) (enough : 16 * wordsIn (Expr.maxPieces max) ≤ bound) :
    Rereads lines level (do
      let max ←
        if ← Parser.eat .colon then pure (some (← Grammar.expr (read bound)))
        else pure none
      return .slice base low high' max) ahead (SameBounds base low high max) rest := by
  dsimp only
  cases max with
  | none =>
      obtain rfl : ahead = rest := placed
      exact .unlessEat (by simp [closes]) (.known (.pure ⟨high', none, rfl, sameHigh, rfl⟩))
  | some max =>
      obtain ⟨offset, after, rfl, -, placed⟩ := placed
      have size : 16 * (wordsIn max.pieces + 1) ≤ bound := enough
      refine .ifEat rfl (.bind _ (closed (reads max rfl) free placed ?_ ?_) fun newMax sameMax =>
        .known (.pure ⟨high', some newMax, rfl, sameHigh, ?_⟩))
      · rw [closes]
        decide
      · rw [cost]
        omega
      · rw [Option.map_some, Option.map_some, sameMax]

/-- The bounds of a slice behind the first one. -/
theorem sliceBounds_rereads {high max : Option Expr} (base : Expr) (low : Option Expr)
    (free : 0 ≤ level) (highShaped : ∀ e ∈ high, Shaped (.binary 1) e)
    (highReads : ∀ e ∈ high, OfBinary lines e 1) (maxReads : ∀ e ∈ max, OfBinary lines e 1)
    (placed : Placed lines row (.mark .colon :: (Expr.piecesOf high ++ Expr.maxPieces max)) ahead
      rest)
    (closes : headKind rest = .rightBracket)
    (enough : 16 * wordsIn (Expr.piecesOf high ++ Expr.maxPieces max) + 6 ≤ bound) :
    Rereads lines level (Grammar.sliceBounds (read bound) base low) ahead
      (SameBounds base low high max) rest := by
  obtain ⟨offset, after, rfl, -, placed⟩ := placed
  obtain ⟨between, first, second⟩ := placed_append.1 placed
  rw [Piece.wordsIn_append] at enough
  have follows : headKind between ∈ [Kind.colon, .rightBracket] := by
    cases max with
    | none =>
        obtain rfl : between = rest := second
        simp [closes]
    | some max =>
        obtain ⟨_, _, rfl, -, -⟩ := second
        exact List.mem_cons_self
  unfold Grammar.sliceBounds
  dsimp only
  refine .expect rfl ?_
  cases high with
  | none =>
      obtain rfl : after = between := first
      refine .ifAny follows (.known ?_)
      exact sliceMax_rereads base low free rfl maxReads second closes (by omega)
  | some high =>
      have size : 16 * (wordsIn high.pieces + wordsIn (Expr.maxPieces max)) + 6 ≤ bound := enough
      refine .unlessAny ?_ (.bind _ (closed (highReads high rfl) free first ?_ ?_)
        fun newHigh sameHigh => .known ?_)
      · have noColon : headKind after ≠ .colon := headKind_ne (highShaped high rfl) first (by decide)
        have noClose : headKind after ≠ .rightBracket :=
          headKind_ne (highShaped high rfl) first (by decide)
        simp [noColon, noClose]
      · have closing : ∀ kind ∈ [Kind.colon, .rightBracket], kind ∈ closings := by decide
        exact closing _ follows
      · rw [cost]
        omega
      · refine sliceMax_rereads base low free ?_ maxReads second closes (by omega)
        rw [Option.map_some, Option.map_some, sameHigh]

theorem slice_ofPrimary {base : Expr} {low high max : Option Expr} (reads : OfPrimary lines base)
    (lowShaped : ∀ e ∈ low, Shaped (.binary 1) e) (lowReads : ∀ e ∈ low, OfBinary lines e 1)
    (highShaped : ∀ e ∈ high, Shaped (.binary 1) e) (highReads : ∀ e ∈ high, OfBinary lines e 1)
    (maxReads : ∀ e ∈ max, OfBinary lines e 1) : OfPrimary lines (.slice base low high max) := by
  have layout : (Expr.slice base low high max).pieces = base.pieces ++
      (.mark .leftBracket :: (Expr.piecesOf low ++
        ((.mark .colon :: (Expr.piecesOf high ++ Expr.maxPieces max)) ++
          [Piece.mark .rightBracket]))) := by
    rw [Expr.pieces_slice]
    simp only [List.append_assoc, List.cons_append]
  refine suffix_ofPrimary reads layout rfl (by simp) nofun ?_
  intro level row ahead middle good rest less result free placed same enough behind
  obtain ⟨openOffset, after, rfl, -, placed⟩ := placed
  obtain ⟨between, first, second⟩ := placed_append.1 placed
  obtain ⟨_, bounds, closeOffset, afterClose, rfl, -, rfl⟩ := placed_append.1 second
  have size : 16 * (wordsIn (Expr.piecesOf low) +
      wordsIn (Expr.piecesOf high ++ Expr.maxPieces max) + 3) ≤ less + 1 := by
    simpa [Nat.add_assoc] using enough
  have isColon : headKind between = .colon := headKind_of_placed bounds rfl
  have inner : Rereads lines (level + 1) (Grammar.indexOrSlice (read less) result) after
      (Same (.slice base low high max))
      (⟨.rightBracket, Kind.rightBracket.spelling, closeOffset⟩ :: afterClose) := by
    unfold Grammar.indexOrSlice
    have finish : ∀ (newLow : Option Expr) (next : Expr),
        newLow.map Expr.unplaced = low.map Expr.unplaced →
        SameBounds result newLow high max next → Same (.slice base low high max) next := by
      rintro newLow next sameLow ⟨newHigh, newMax, rfl, sameHigh, sameMax⟩
      rw [Same, Expr.unplaced_slice, Expr.unplaced_slice, same, sameLow, sameHigh, sameMax]
    cases low with
    | none =>
        obtain rfl : after = between := first
        refine .ifAt isColon ?_
        exact (sliceBounds_rereads result none (by omega) highShaped highReads maxReads bounds rfl
          (by omega)).mono fun next => finish none next rfl
    | some low =>
        have lowSize : 16 * (wordsIn low.pieces +
          wordsIn (Expr.piecesOf high ++ Expr.maxPieces max) + 3) ≤ less + 1 := size
        refine .unlessAt (headKind_ne (lowShaped low rfl) first (by decide)) ?_
        refine .bind _ (closed (lowReads low rfl) (by omega) first ?_ ?_) fun newLow sameLow =>
          .ifAt isColon ?_
        · rw [isColon]
          decide
        · rw [cost]
          omega
        · refine (sliceBounds_rereads result (some newLow) (by omega) highShaped highReads maxReads
            bounds rfl (by omega)).mono fun next => finish _ next ?_
          rw [Option.map_some, Option.map_some, sameLow]
  unfold Grammar.primaryTail
  exact .peek (.bump (.bind _ (.nested inner) fun next isNext => .expect rfl (behind next isNext)))

/-! ## Lists -/

/-- The words of trees with a comma between neighbours, perhaps with one behind the last. -/
inductive Listed (lines : LineIndex) : List Expr → List Token → List Token → Prop
  | nil {rest : List Token} : Listed lines [] rest rest
  | last {row : Nat} {expr : Expr} {ahead rest : List Token}
      (placed : Placed lines row expr.pieces ahead rest) : Listed lines [expr] ahead rest
  | more {row : Nat} {expr : Expr} {exprs : List Expr} {comma : Token}
      {ahead behind rest : List Token} (isComma : comma.kind = .comma)
      (placed : Placed lines row expr.pieces ahead (comma :: behind))
      (others : Listed lines exprs behind rest) : Listed lines (expr :: exprs) ahead rest

theorem Listed.of_tail {exprs : List Expr}
    (placed : Placed lines row (expr.pieces ++ Expr.tailPieces exprs) ahead rest) :
    Listed lines (expr :: exprs) ahead rest := by
  induction exprs generalizing expr row ahead with
  | nil =>
      rw [Expr.tailPieces_nil, List.append_nil] at placed
      exact .last placed
  | cons next exprs ih =>
      obtain ⟨_, first, commaOffset, behind, rfl, -, others⟩ := placed_append.1 placed
      exact .more rfl first (ih others)

theorem Listed.of_list {exprs : List Expr}
    (placed : Placed lines row (Expr.listPieces exprs) ahead rest) :
    Listed lines exprs ahead rest := by
  cases exprs with
  | nil =>
      obtain rfl : ahead = rest := placed
      exact .nil
  | cons expr exprs => exact .of_tail placed

theorem Listed.of_lines {exprs : List Expr}
    (placed : Placed lines row (Expr.linePieces exprs) ahead rest) :
    Listed lines exprs ahead rest := by
  induction exprs generalizing row ahead with
  | nil =>
      obtain rfl : ahead = rest := placed
      exact .nil
  | cons expr exprs ih =>
      rw [Expr.linePieces_cons, List.cons_append, Piece.placed_line] at placed
      obtain ⟨_, first, commaOffset, behind, rfl, -, others⟩ := placed_append.1 placed
      exact .more rfl first (ih others)

/-- How deeply the productions nest that read the trees of a list. -/
def costAll (exprs : List Expr) : Nat :=
  (exprs.map fun expr => cost expr + 16).sum

theorem costAll_cons {exprs : List Expr} :
    costAll (expr :: exprs) = cost expr + 16 + costAll exprs := by
  simp [costAll]

theorem costAll_lines (exprs : List Expr) :
    costAll exprs = 16 * wordsIn (Expr.linePieces exprs) := by
  induction exprs with
  | nil => rfl
  | cons expr exprs ih =>
      simp [costAll_cons, ih, cost, Expr.linePieces_cons]
      omega

theorem costAll_list (exprs : List Expr) :
    costAll exprs ≤ 16 * (wordsIn (Expr.listPieces exprs) + 1) := by
  have tail : ∀ exprs, costAll exprs = 16 * wordsIn (Expr.tailPieces exprs) := by
    intro exprs
    induction exprs with
    | nil => rfl
    | cons expr exprs ih =>
        simp [costAll_cons, ih, cost, Expr.tailPieces_cons]
        omega
  cases exprs with
  | nil => exact Nat.zero_le _
  | cons expr exprs =>
      rw [costAll_cons, tail, Expr.listPieces_cons, Piece.wordsIn_append, cost]
      omega

theorem arguments_rereads {exprs : List Expr} (listed : Listed lines exprs ahead rest)
    (shaped : ∀ e ∈ exprs, Shaped .argument e) (reads : ∀ e ∈ exprs, OfArgument lines e)
    (free : 0 ≤ level) (closes : headKind rest = .rightParen) (enough : costAll exprs + 8 ≤ bound) :
    Rereads lines level (read bound .arguments) ahead
      (fun result => Expr.unplacedAll result.1 = Expr.unplacedAll exprs ∧ result.2 = false)
      rest := by
  have opens : ∀ {expr row ahead rest}, Shaped .argument expr →
      Placed lines row expr.pieces ahead rest → headKind ahead ∉ [.rightParen, .endOfFile] := by
    intro expr row ahead rest shaped placed
    have noClose : headKind ahead ≠ .rightParen := headKind_ne shaped placed (by decide)
    have noEnd : headKind ahead ≠ .endOfFile := headKind_ne shaped placed (by decide)
    simp [noClose, noEnd]
  induction listed generalizing bound with
  | nil =>
      refine run (by omega) fun less isLess => ?_
      exact .ifAny (by simp [closes]) (.pure ⟨rfl, rfl⟩)
  | @last row expr ahead rest placed =>
      rw [costAll_cons] at enough
      refine run (by omega) fun less isLess => ?_
      refine .unlessAny (opens (shaped expr (by simp)) placed) ?_
      refine .bind _ (reads expr (by simp) free placed ?_ ?_) fun first same =>
        .skip (by simp [closes]) (.unlessEat (by simp [closes]) (.pure ⟨?_, rfl⟩))
      · rw [closes]
        decide
      · omega
      · rw [Expr.unplacedAll_cons, Expr.unplacedAll_cons, same]
  | @more row expr exprs comma ahead behind rest isComma placed others ih =>
      rw [costAll_cons] at enough
      refine run (by omega) fun less isLess => ?_
      refine .unlessAny (opens (shaped expr (by simp)) placed) ?_
      refine .bind _ (reads expr (by simp) free placed ?_ ?_) fun first same =>
        .skip (by simp [headKind, isComma]) (.ifEat isComma (.bind _
          (ih (fun e member => shaped e (by simp [member]))
            (fun e member => reads e (by simp [member])) closes ?_)
          fun others isOthers => .pure ⟨?_, isOthers.2⟩))
      · simp [headKind, isComma, closings]
      · omega
      · omega
      · rw [Expr.unplacedAll_cons, Expr.unplacedAll_cons, same, isOthers.1]

/-- An entry of a composite literal is read, and what stands behind it is read on. -/
theorem item_rereads {β : Type} {good : β → Prop} {next : Expr → Parser β} (free : 0 ≤ level)
    (reads : OfItem lines expr) (placed : Placed lines row expr.pieces ahead middle)
    (closes : headKind middle ∈ [.comma, .rightBrace]) (enough : cost expr + 8 ≤ bound)
    (behind : ∀ result, Same expr result → Rereads lines level (next result) middle good rest) :
    Rereads lines level (read bound .element >>= fun first =>
      Parser.eat .colon >>= fun found =>
        if found = true then
          read bound .element >>= fun value => pure (Expr.keyValue first value) >>= next
        else pure first >>= next) ahead good rest := by
  have tested : ∀ kind ∈ [Kind.comma, .rightBrace], kind ∈ closings ∧ kind ≠ .colon := by decide
  obtain ⟨closing, noColon⟩ := tested _ closes
  rcases reads with reads | ⟨key, value, rfl, keyReads, valueReads⟩
  · exact .bind _ (reads free placed closing enough) fun first same =>
      .unlessEat noColon (.known (behind first same))
  · rw [Expr.pieces_keyValue] at placed
    obtain ⟨_, first, colonOffset, afterColon, rfl, -, second⟩ := placed_append.1 placed
    have size : cost (.keyValue key value) = cost key + cost value + 16 := by
      simp [cost, Expr.pieces_keyValue]
      omega
    refine .bind _ (keyReads free first ?_ ?_) fun newKey sameKey => .ifEat rfl
      (.bind _ (valueReads free second closing ?_) fun newValue sameValue =>
        .known (behind _ ?_))
    · show Kind.colon ∈ closings
      decide
    · omega
    · omega
    · rw [Same, Expr.unplaced_keyValue, Expr.unplaced_keyValue, sameKey, sameValue]

theorem elements_rereads {exprs : List Expr} (listed : Listed lines exprs ahead rest)
    (shaped : ∀ e ∈ exprs, Shaped .item e) (reads : ∀ e ∈ exprs, OfItem lines e)
    (free : 0 ≤ level) (closes : headKind rest = .rightBrace) (enough : costAll exprs + 10 ≤ bound) :
    Rereads lines level (read bound .elements) ahead
      (fun result => Expr.unplacedAll result = Expr.unplacedAll exprs) rest := by
  have opens : ∀ {expr row ahead rest}, Shaped .item expr →
      Placed lines row expr.pieces ahead rest → headKind ahead ∉ [.rightBrace, .endOfFile] := by
    intro expr row ahead rest shaped placed
    have noClose : headKind ahead ≠ .rightBrace := headKind_ne shaped placed (by decide)
    have noEnd : headKind ahead ≠ .endOfFile := headKind_ne shaped placed (by decide)
    simp [noClose, noEnd]
  induction listed generalizing bound with
  | nil =>
      refine run (by omega) fun less isLess => ?_
      exact .ifAny (by simp [closes]) (.pure rfl)
  | @last row expr ahead rest placed =>
      rw [costAll_cons] at enough
      refine run (by omega) fun less isLess => ?_
      refine .unlessAny (opens (shaped expr (by simp)) placed) ?_
      refine item_rereads free (reads expr (by simp)) placed (by simp [closes]) (by omega)
        fun result same => .unlessEat (by simp [closes]) (.pure ?_)
      rw [Expr.unplacedAll_cons, Expr.unplacedAll_cons, same]
  | @more row expr exprs comma ahead behind rest isComma placed others ih =>
      rw [costAll_cons] at enough
      refine run (by omega) fun less isLess => ?_
      refine .unlessAny (opens (shaped expr (by simp)) placed) ?_
      refine item_rereads free (reads expr (by simp)) placed (by simp [headKind, isComma])
        (by omega) fun result same => .ifEat isComma (.bind _
          (ih (fun e member => shaped e (by simp [member]))
            (fun e member => reads e (by simp [member])) closes (by omega))
          fun others isOthers => .pure ?_)
      rw [Expr.unplacedAll_cons, Expr.unplacedAll_cons, same, isOthers]

theorem call_ofPrimary {callee : Expr} {arguments : List Expr} (reads : OfPrimary lines callee)
    (shaped : ∀ e ∈ arguments, Shaped .argument e) (inside : ∀ e ∈ arguments, OfArgument lines e) :
    OfPrimary lines (.call callee arguments false) := by
  have layout : (Expr.call callee arguments false).pieces = callee.pieces ++
      (.mark .leftParen :: (Expr.listPieces arguments ++ [Piece.mark .rightParen])) := by
    rw [Expr.pieces_call]
    simp
  refine suffix_ofPrimary reads layout rfl (by simp) nofun ?_
  intro level row ahead middle good rest less result free placed same enough behind
  obtain ⟨openOffset, after, rfl, -, placed⟩ := placed
  obtain ⟨_, first, closeOffset, afterClose, rfl, -, rfl⟩ := placed_append.1 placed
  have size : 16 * (wordsIn (Expr.listPieces arguments) + 2) ≤ less + 1 := by simpa using enough
  have total := costAll_list arguments
  have deep : 0 ≤ level + 1 := by omega
  have innerEnough : costAll arguments + 8 ≤ less := by omega
  have inner := arguments_rereads (.of_list first) shaped inside deep rfl innerEnough
  unfold Grammar.primaryTail
  refine .peek (.bump (.bind _ (.nested inner) fun found isFound => .expect rfl (behind _ ?_)))
  rw [Same, Expr.unplaced_call, Expr.unplaced_call, same, isFound.1, isFound.2]

/-! ## Composite literals -/

/-- What stands between the braces of a literal that was read, and the lines that it takes. -/
theorem innerPieces_placed {elements : List Expr} {multiline : Bool}
    (flagged : Flagged elements multiline)
    (placed : Placed lines row (Expr.innerPieces elements multiline) ahead rest) :
    Listed lines elements ahead rest ∧
      costAll elements ≤ 16 * (wordsIn (Expr.innerPieces elements multiline) + 1) ∧
        (multiline = (row != row + breaksIn (Expr.innerPieces elements multiline))) := by
  cases multiline with
  | false =>
      have same : Expr.innerPieces elements false = Expr.listPieces elements := rfl
      rw [same] at placed ⊢
      exact ⟨.of_list placed, costAll_list elements, by simp [flagged.flat rfl]⟩
  | true =>
      have isFilled : elements.isEmpty = false := by simpa using flagged.filled rfl
      have same : Expr.innerPieces elements true =
          .indent :: (Expr.linePieces elements ++ [Piece.dedent, .line]) := by
        rw [Expr.innerPieces, isFilled]
        rfl
      rw [same, Piece.placed_indent] at placed
      rw [same]
      obtain ⟨_, first, second⟩ := placed_append.1 placed
      obtain rfl : _ = rest := second
      refine ⟨.of_lines first, ?_, ?_⟩
      · simp [costAll_lines, Nat.mul_add]
      · simp [Piece.breaks]

theorem compositeBody_rereads {elements : List Expr} {multiline : Bool} (type : Option Expr)
    (level : Int)
    (shaped : ∀ e ∈ elements, Shaped .item e) (reads : ∀ e ∈ elements, OfItem lines e)
    (flagged : Flagged elements multiline)
    (placed : Placed lines row (.mark .leftBrace :: (Expr.innerPieces elements multiline ++
      [Piece.mark .rightBrace])) ahead rest)
    (enough : 16 * (wordsIn (Expr.innerPieces elements multiline) + 1) + 10 ≤ bound) :
    Rereads lines level (Grammar.compositeBody (read bound) type) ahead
      (fun result => ∃ read, result = .composite type read multiline ∧
        Expr.unplacedAll read = Expr.unplacedAll elements) rest := by
  obtain ⟨openOffset, after, rfl, isOpen, placed⟩ := placed
  obtain ⟨_, first, closeOffset, afterClose, rfl, isClose, rfl⟩ := placed_append.1 placed
  obtain ⟨listed, total, broken⟩ := innerPieces_placed flagged first
  have innerEnough : costAll elements + 10 ≤ bound := by omega
  have inner := elements_rereads listed shaped reads (Int.le_refl 0) rfl innerEnough
  unfold Grammar.compositeBody
  refine .expect rfl (.bind _ (.fresh inner) fun read isRead => .expect rfl (.get ?_))
  intro stop
  have rows : (lines.lineAt openOffset != lines.lineAt closeOffset) = multiline := by
    rw [isOpen, isClose]
    exact broken.symm
  exact .pure ⟨read, congrArg (Expr.composite type read) rows, isRead⟩

theorem isLiteralType_unplaced (type : Expr) :
    Grammar.isLiteralType type.unplaced = Grammar.isLiteralType type := by
  cases type with
  | selector base name =>
      cases base with
      | composite type elements multiline => cases type <;> rfl
      | slice base low high max => cases low <;> cases high <;> cases max <;> rfl
      | assertion base type => cases type <;> rfl
      | _ => rfl
  | composite type elements multiline => cases type <;> rfl
  | slice base low high max => cases low <;> cases high <;> cases max <;> rfl
  | assertion base type => cases type <;> rfl
  | _ => rfl

theorem composite_ofPrimary {type : Expr} {elements : List Expr} {multiline : Bool}
    (reads : OfPrimary lines type) (isType : Grammar.isLiteralType type = true)
    (shaped : ∀ e ∈ elements, Shaped .item e) (inside : ∀ e ∈ elements, OfItem lines e)
    (flagged : Flagged elements multiline) :
    OfPrimary lines (.composite (some type) elements multiline) := by
  have layout : (Expr.composite (some type) elements multiline).pieces = type.pieces ++
      (.mark .leftBrace :: (Expr.innerPieces elements multiline ++ [Piece.mark .rightBrace])) := by
    rw [Expr.pieces_composite, List.append_assoc]
    rfl
  refine suffix_ofPrimary reads layout rfl (by simp) nofun ?_
  intro level row ahead middle good rest less result free placed same enough behind
  have size : 16 * (wordsIn (Expr.innerPieces elements multiline) + 2) ≤ less + 1 := by
    simpa using enough
  have isLiteral : Grammar.isLiteralType result = true := by
    rw [← isLiteralType_unplaced, same, isLiteralType_unplaced, isType]
  have bodyEnough : 16 * (wordsIn (Expr.innerPieces elements multiline) + 1) + 10 ≤ less := by
    omega
  have body := compositeBody_rereads (some result) level shaped inside flagged placed bodyEnough
  obtain ⟨openOffset, after, rfl, isOpen, placed⟩ := placed
  unfold Grammar.primaryTail
  refine .peek (.get fun stop => ?_)
  dsimp only
  rw [if_pos (by simp [isLiteral, free])]
  refine .bind _ body ?_
  rintro _ ⟨read, rfl, isRead⟩
  refine behind _ ?_
  rw [Same, Expr.unplaced_composite, Expr.unplaced_composite, Option.map_some, Option.map_some,
    same, isRead]

/-! ## Types -/

theorem typeName_ofType {name : Ident} : OfType lines (.ident name) := by
  intro level row ahead rest bound free placed noDot enough
  obtain ⟨offset, after, rfl, -, rfl⟩ := placed
  have size : 16 ≤ bound := enough
  refine run (by omega) fun less isLess => ?_
  show Rereads lines level (Grammar.type (read less)) _ _ _
  unfold Grammar.type
  refine .peek ?_
  show Rereads lines level Grammar.typeName _ _ _
  unfold Grammar.typeName
  exact .ident rfl (.unlessEat (fun isDot => nomatch noDot isDot) (.pure rfl))

theorem qualified_ofType {package name : Ident} :
    OfType lines (.selector (.ident package) name) := by
  intro level row ahead rest bound free placed noDot enough
  obtain ⟨offset, _, rfl, -, dotOffset, _, rfl, -, nameOffset, _, rfl, -, rfl⟩ := placed
  have size : 48 ≤ bound := enough
  refine run (by omega) fun less isLess => ?_
  show Rereads lines level (Grammar.type (read less)) _ _ _
  unfold Grammar.type
  refine .peek ?_
  show Rereads lines level Grammar.typeName _ _ _
  unfold Grammar.typeName
  exact .ident rfl (.ifEat rfl (.ident rfl (.pure rfl)))

theorem pointer_ofType {inner : Expr} (reads : OfType lines inner) :
    OfType lines (.star inner) := by
  intro level row ahead rest bound free placed noDot enough
  obtain ⟨offset, after, rfl, -, placed⟩ := placed
  have size : 16 * (wordsIn inner.pieces + 1) ≤ bound := enough
  refine run (by omega) fun less isLess => ?_
  show Rereads lines level (Grammar.type (read less)) _ _ _
  unfold Grammar.type
  refine .peek (.bump (.bind _ (reads free placed noDot ?_) fun result same => .pure ?_))
  · rw [cost]
    omega
  · rw [Same, Expr.unplaced_star, Expr.unplaced_star, same]

theorem group_ofType {inner : Expr} (reads : OfType lines inner) :
    OfType lines (.paren inner) := by
  intro level row ahead rest bound free placed noDot enough
  obtain ⟨offset, after, rfl, -, placed⟩ := placed
  obtain ⟨_, first, closeOffset, afterClose, rfl, -, rfl⟩ := placed_append.1 placed
  have size : 16 * (wordsIn inner.pieces + 2) ≤ bound := by
    simpa [cost, Expr.pieces_paren] using enough
  refine run (by omega) fun less isLess => ?_
  show Rereads lines level (Grammar.type (read less)) _ _ _
  unfold Grammar.type
  refine .peek (.bump (.bind _ (reads free first nofun ?_) fun result same =>
    .expect rfl (.pure ?_)))
  · rw [cost]
    omega
  · rw [Same, Expr.unplaced_paren, Expr.unplaced_paren, same]

theorem arrayLength_rereads {length : ArrayLength}
    (shaped : ∀ e, length = .fixed e → Shaped (.binary 1) e)
    (reads : ∀ e, length = .fixed e → OfBinary lines e 1) (free : 0 ≤ level)
    (placed : Placed lines row length.pieces ahead rest)
    (enough : 16 * wordsIn length.pieces ≤ bound + 1) :
    Rereads lines level (Grammar.arrayLength (read bound)) ahead
      (fun result => Expr.unplacedLength result = Expr.unplacedLength length) rest := by
  unfold Grammar.arrayLength
  cases length with
  | slice =>
      obtain ⟨offset, _, rfl, -, closeOffset, _, rfl, -, rfl⟩ := placed
      exact .expect rfl (.ifEat rfl (.pure rfl))
  | inferred =>
      obtain ⟨offset, _, rfl, -, dotsOffset, _, rfl, -, closeOffset, _, rfl, -, rfl⟩ := placed
      exact .expect rfl (.unlessEat nofun (.ifEat rfl (.expect rfl (.pure rfl))))
  | fixed length =>
      obtain ⟨offset, after, rfl, -, placed⟩ := placed
      obtain ⟨_, first, closeOffset, afterClose, rfl, -, rfl⟩ := placed_append.1 placed
      have size : 16 * (wordsIn length.pieces + 2) ≤ bound + 1 := by
        simpa [ArrayLength.pieces_fixed] using enough
      have inside := shaped length rfl
      have deep : 0 ≤ level + 1 := by omega
      have closes : Kind.rightBracket ∈ closings := by decide
      have innerEnough : cost length + 6 ≤ bound := by
        rw [cost]
        omega
      have inner := whole (reads length rfl) deep first (ends_of_closing closes)
        (loose_of_closing closes) innerEnough
      refine .expect rfl (.unlessEat (headKind_ne inside first (by decide))
        (.unlessEat (headKind_ne inside first (by decide)) (.bind _ (.outcome (.nested inner)) ?_)))
      rintro _ ⟨value, rfl, same⟩
      refine .expect rfl (.pure ?_)
      rw [Expr.unplacedLength_fixed, Expr.unplacedLength_fixed, same]

theorem array_ofType {length : ArrayLength} {element : Expr}
    (shaped : ∀ e, length = .fixed e → Shaped (.binary 1) e)
    (inside : ∀ e, length = .fixed e → OfBinary lines e 1) (reads : OfType lines element) :
    OfType lines (.arrayType length element) := by
  intro level row ahead rest bound free placed noDot enough
  obtain ⟨_, first, second⟩ := placed_append.1 placed
  have size : 16 * (wordsIn length.pieces + wordsIn element.pieces) ≤ bound := by
    simpa [cost, Expr.pieces_arrayType] using enough
  have opens : headKind ahead = .leftBracket :=
    headKind_of_placed first (by cases length <;> rfl)
  have some_ : 0 < wordsIn length.pieces := by
    cases length <;>
      simp [ArrayLength.pieces_slice, ArrayLength.pieces_inferred, ArrayLength.pieces_fixed]
  refine run (by omega) fun less isLess => ?_
  show Rereads lines level (Grammar.type (read less)) _ _ _
  unfold Grammar.type
  refine .peek ?_
  rw [opens]
  refine .bind _ (arrayLength_rereads shaped inside free first (by omega)) fun newLength sameLength =>
    .bind _ (reads free second noDot ?_) fun newElement sameElement => .pure ?_
  · rw [cost]
    omega
  · rw [Same, Expr.unplaced_arrayType, Expr.unplaced_arrayType, sameLength, sameElement]

theorem map_ofType {key value : Expr} (keyReads : OfType lines key)
    (valueReads : OfType lines value) : OfType lines (.mapType key value) := by
  intro level row ahead rest bound free placed noDot enough
  obtain ⟨offset, _, rfl, -, openOffset, after, rfl, -, placed⟩ := placed
  obtain ⟨_, first, closeOffset, afterClose, rfl, -, second⟩ := placed_append.1 placed
  have size : 16 * (wordsIn key.pieces + wordsIn value.pieces + 3) ≤ bound := by
    simpa [cost, Expr.pieces_mapType, Nat.add_assoc] using enough
  refine run (by omega) fun less isLess => ?_
  show Rereads lines level (Grammar.type (read less)) _ _ _
  unfold Grammar.type
  refine .peek (.bump (.expect rfl (.bind _ (keyReads free first nofun ?_) fun newKey sameKey =>
    .expect rfl (.bind _ (valueReads free second noDot ?_) fun newValue sameValue => .pure ?_))))
  · rw [cost]
    omega
  · rw [cost]
    omega
  · rw [Same, Expr.unplaced_mapType, Expr.unplaced_mapType, sameKey, sameValue]

/-- Nothing is read in the braces of the type that every value has. -/
theorem any_ofType : OfType lines (.interfaceType ⟨[], []⟩) := by
  intro level row ahead rest bound free placed _ enough
  obtain ⟨offset, _, rfl, -, openOffset, _, rfl, -, closeOffset, after, rfl, -, rfl⟩ := placed
  have size : 48 ≤ bound := enough
  refine run (by omega) fun less isLess => ?_
  show Rereads lines level (Grammar.type (read less)) _ _ _
  have members : Rereads lines level (read less .interfaceMembers)
      (⟨.rightBrace, Kind.rightBrace.spelling, closeOffset⟩ :: after) (· = [])
      (⟨.rightBrace, Kind.rightBrace.spelling, closeOffset⟩ :: after) :=
    run (by omega) fun _ _ => .ifAny (by simp [headKind]) (.pure rfl)
  have braces : Rereads lines level
      (Grammar.memberList (read less .interfaceMembers))
      (⟨.leftBrace, Kind.leftBrace.spelling, openOffset⟩ ::
        ⟨.rightBrace, Kind.rightBrace.spelling, closeOffset⟩ :: after) (· = ⟨[], []⟩) after := by
    refine .expect rfl (.bind _ members ?_)
    rintro _ rfl
    exact .doc (.expect rfl (.pure rfl))
  unfold Grammar.type
  refine .peek (.bump (.bind _ braces ?_))
  rintro _ rfl
  exact .pure rfl

theorem chan_ofType {direction : ChanDirection} {element : Expr} (shaped : Shaped .type element)
    (noArrow : direction = .both → element.lead? ≠ some .arrow) (reads : OfType lines element) :
    OfType lines (.chanType direction element) := by
  intro level row ahead rest bound free placed noDot enough
  have same : ∀ result, Same element result →
      Same (.chanType direction element) (.chanType direction result) := by
    intro result isSame
    rw [Same, Expr.unplaced_chanType, Expr.unplaced_chanType, isSame]
  have size : 16 * (wordsIn element.pieces + 1) ≤ bound := by
    have opened : 1 ≤ wordsIn direction.pieces := by cases direction <;> decide
    rw [cost, Expr.pieces_chanType, Piece.wordsIn_append] at enough
    omega
  refine run (by omega) fun less isLess => ?_
  show Rereads lines level (Grammar.type (read less)) _ _ _
  have inner : ∀ {row ahead}, Placed lines row element.pieces ahead rest →
      Rereads lines level (read less .type) ahead (Same element) rest :=
    fun placed => reads free placed noDot (by rw [cost]; omega)
  unfold Grammar.type
  cases direction with
  | both =>
      obtain ⟨offset, after, rfl, -, placed⟩ := placed
      obtain ⟨kind, -, begins⟩ := shaped.lead_mem
      have other : headKind after ≠ .arrow := by
        rw [headKind_of_placed placed begins]
        exact fun isArrow => noArrow rfl (isArrow ▸ begins)
      exact .peek (.bump (.skip other (.bind _ (inner placed) fun result isSame =>
        .pure (same result isSame))))
  | send =>
      obtain ⟨offset, _, rfl, -, arrowOffset, after, rfl, -, placed⟩ := placed
      exact .peek (.bump (.take rfl (.bind _ (inner placed) fun result isSame =>
        .pure (same result isSame))))
  | receive =>
      obtain ⟨offset, _, rfl, -, chanOffset, after, rfl, -, placed⟩ := placed
      exact .peek (.bump (.expect rfl (.bind _ (inner placed) fun result isSame =>
        .pure (same result isSame))))

/-! ## Operators -/

/-- A type that opens with a bracket or a keyword is read as an operand. -/
theorem bare_ofPrimary {type : Expr} (isBare : type.isBareType = true)
    (reads : OfType lines type) : OfPrimary lines type := by
  intro level row ahead middle good rest bound least free placed dot enough behind
  have noDot : headKind middle = .dot → type.endsInName = false := by
    intro isDot
    simpa [type.takesDot_of_isBareType isBare] using dot isDot
  have inner := reads free placed noDot (Nat.le_of_add_left_le enough)
  have tail : ∀ result, Same type result →
      Rereads lines level (read bound (.primaryTail result)) middle good rest :=
    fun result same => behind result bound same (Nat.le_of_add_right_le enough)
  have operand : ∀ kind ∈ [Kind.leftBracket, .mapKw, .chanKw], headKind ahead = kind →
      Rereads lines level (Grammar.unary (read bound)) ahead good rest := by
    intro kind listed here
    have leads : ∀ kind ∈ [Kind.leftBracket, .mapKw, .chanKw],
        kind ∈ Form.operandLeads ∧ kind ≠ .arrow := by
      decide
    obtain ⟨lead, noArrow⟩ := leads kind listed
    refine unary_operand kind here lead noArrow (.peekAt here ?_) tail
    simp only [List.mem_cons, List.not_mem_nil, or_false] at listed
    rcases listed with rfl | rfl | rfl <;> exact inner
  cases type with
  | arrayType length element =>
      exact operand .leftBracket (by decide) (headKind_of_placed placed (by cases length <;> rfl))
  | mapType key value => exact operand .mapKw (by decide) (headKind_of_placed placed rfl)
  | chanType direction element =>
      cases direction with
      | both => exact operand .chanKw (by decide) (headKind_of_placed placed rfl)
      | send => exact operand .chanKw (by decide) (headKind_of_placed placed rfl)
      | receive =>
          obtain ⟨offset, _, rfl, -, chanOffset, after, rfl, -, placed⟩ := placed
          unfold Grammar.unary
          refine .peekAt (show _ = Kind.arrow from rfl) ?_
          rw [if_neg (by decide)]
          refine .peekSecond ?_
          rw [if_pos ⟨rfl, rfl⟩]
          exact .bind _ inner tail
  | _ => cases isBare

theorem operand_ofUnary (reads : OfPrimary lines expr) : OfUnary lines expr := by
  intro level row ahead rest bound free placed ends enough
  refine run (by omega) fun less isLess => ?_
  refine reads 1 free placed (fun isDot => ?_) (by omega) fun result more same enough =>
    run enough fun less isLess => ?_
  · exact absurd (isDot ▸ List.mem_cons_self) ends
  · show Rereads lines level (Grammar.primaryTail (read less) result) rest (Same expr) rest
    unfold Grammar.primaryTail
    refine .peek ?_
    split
    case h_5 => exact .pure same
    all_goals
      rename_i here
      simp [Ends, here] at ends

theorem star_ofUnary {inner : Expr} (reads : OfUnary lines inner) :
    OfUnary lines (.star inner) := by
  intro level row ahead rest bound free placed ends enough
  obtain ⟨offset, after, rfl, -, placed⟩ := placed
  have size : 16 * (wordsIn inner.pieces + 1) + 2 ≤ bound := enough
  refine run (by omega) fun less isLess => ?_
  show Rereads lines level (Grammar.unary (read less)) _ _ _
  unfold Grammar.unary
  refine .peekAt (show _ = Kind.star from rfl) ?_
  rw [if_pos rfl]
  refine .bump (.bind _ (reads free placed ends ?_) fun result same => .pure ?_)
  · rw [cost]
    omega
  · rw [Same, Expr.unplaced_star, Expr.unplaced_star, same]

theorem prefixed_ofUnary {op : UnaryOp} {operand : Expr} (shaped : Shaped .unary operand)
    (noChannel : op = .receive → operand.lead? ≠ some .chanKw) (reads : OfUnary lines operand) :
    OfUnary lines (.unary op operand) := by
  intro level row ahead rest bound free placed ends enough
  have layout : ∃ offset after, ahead = ⟨op.kind, op.kind.spelling, offset⟩ :: after ∧
      Placed lines row operand.pieces after rest := by
    rw [Expr.pieces_unary] at placed
    split at placed
    · obtain ⟨offset, after, rfl, -, placed⟩ := placed
      exact ⟨offset, after, rfl, placed⟩
    · obtain ⟨offset, after, rfl, -, placed⟩ := placed
      exact ⟨offset, after, rfl, placed⟩
  obtain ⟨offset, after, rfl, inside⟩ := layout
  have size : 16 * (wordsIn operand.pieces + 1) + 2 ≤ bound := by
    refine Nat.le_trans ?_ enough
    rw [cost, Expr.pieces_unary]
    split <;> simp
  refine run (by omega) fun less isLess => ?_
  show Rereads lines level (Grammar.unary (read less)) _ _ _
  unfold Grammar.unary
  refine .peekAt (show _ = op.kind from rfl) ?_
  rw [if_neg (show ¬op.kind = .star by cases op <;> decide)]
  refine .peekSecond ?_
  obtain ⟨kind, -, begins⟩ := shaped.lead_mem
  rw [if_neg, show UnaryOp.ofKind? op.kind = some op from UnaryOp.ofKind?_eq_some_iff.2 rfl]
  · refine .bump (.bind _ (reads free inside ends ?_) fun result same => .pure ?_)
    · rw [cost]
      omega
    · rw [Same, Expr.unplaced_unary, Expr.unplaced_unary, same]
  · rintro ⟨isArrow, isChan⟩
    have second : headKind after = .chanKw := isChan
    rw [headKind_of_placed inside begins] at second
    refine noChannel ?_ (second ▸ begins)
    have isArrow : op.kind = .arrow := isArrow
    cases op <;> first | rfl | cases isArrow

theorem single_ofBinary {binds : Nat} (reads : OfUnary lines expr) : OfBinary lines expr binds := by
  intro level row ahead middle good rest bound floor least free below placed ends loose enough behind
  unfold Grammar.binary
  exact .bind _ (reads free placed ends (by omega)) fun result same =>
    behind result bound same (by omega)

theorem joined_ofBinary {binds : Nat} {left right : Expr} {op : BinaryOp}
    (tight : binds ≤ op.precedence) (leftReads : OfBinary lines left op.precedence)
    (rightReads : OfBinary lines right (op.precedence + 1)) :
    OfBinary lines (.binary left op right) binds := by
  intro level row ahead middle good rest bound floor least free below placed ends loose enough behind
  rw [Expr.pieces_binary] at placed
  obtain ⟨_, first, opOffset, after, rfl, -, second⟩ := placed_append.1 placed
  have size : cost (.binary left op right) = cost left + cost right + 16 := by
    simp [cost, Expr.pieces_binary]
    omega
  have isOp : BinaryOp.ofKind? op.kind = some op := BinaryOp.ofKind?_eq_some_iff.2 rfl
  have opEnds : Ends op.kind := by cases op <;> decide
  refine leftReads floor (least + cost right + 10) free (below.trans tight) first opEnds
    (fun other found => ?_) (by omega) fun newLeft more sameLeft enough => ?_
  · have found : BinaryOp.ofKind? op.kind = some other := found
    rw [isOp, Option.some.injEq] at found
    exact found ▸ Nat.lt_succ_self _
  refine run (by omega) fun less isLess => ?_
  show Rereads lines level (Grammar.binaryTail (read less) floor newLeft) _ good rest
  unfold Grammar.binaryTail
  refine .peekAt (show _ = op.kind from rfl) ?_
  rw [isOp]
  dsimp only
  rw [if_neg (Nat.not_lt.2 (below.trans tight))]
  refine .bump (.bind _ (whole rightReads free second ends ?_ ?_) fun newRight sameRight =>
    behind _ less ?_ ?_)
  · exact fun other found => (loose other found).trans_le (Nat.succ_le_succ tight)
  · omega
  · rw [Same, Expr.unplaced_binary, Expr.unplaced_binary, sameLeft, sameRight]
  · omega

/-! ## Arguments and elements -/

theorem plain_ofArgument (shaped : Shaped (.binary 1) expr) (noChannel : expr.lead? ≠ some .chanKw)
    (reads : OfBinary lines expr 1) : OfArgument lines expr := by
  intro level row ahead rest bound free placed closes enough
  obtain ⟨kind, -, begins⟩ := shaped.lead_mem
  have noChan : headKind ahead ≠ .chanKw := by
    rw [headKind_of_placed placed begins]
    exact fun isChan => noChannel (isChan ▸ begins)
  have noInterface : headKind ahead ≠ .interfaceKw := headKind_ne shaped placed (by decide)
  unfold Grammar.exprOrType
  exact .unlessAny (by simp [noChan, noInterface]) (closed reads free placed closes enough)

/-- Before a channel type an argument is read as a unary expression is. -/
theorem exprOrType_of_unary {good : Expr → Prop} (here : headKind ahead = .chanKw)
    (reads : Rereads lines level (Grammar.unary (read bound)) ahead good rest) :
    Rereads lines level (Grammar.exprOrType (read bound)) ahead good rest := by
  intro stop
  have unaryEnds := reads stop
  unfold Grammar.unary at unaryEnds
  rw [Parser.ends_bind, Parser.ends_peek, ParserState.kind_eq, here, if_neg (by decide),
    Parser.ends_bind, Parser.ends_peekSecond, if_neg (by simp)] at unaryEnds
  change Parser.Ends (Grammar.operand (read bound) >>= _) _ _ _ at unaryEnds
  unfold Grammar.operand at unaryEnds
  rw [Parser.ends_bind, Parser.ends_bind, Parser.ends_peek, ParserState.kind_eq, here] at unaryEnds
  unfold Grammar.exprOrType
  rw [Parser.ends_bind, Parser.ends_atAny, ParserState.kind_eq, here, if_pos (by decide),
    Parser.ends_bind]
  exact unaryEnds

theorem channel_ofArgument (isChannel : expr.lead? = some .chanKw)
    (reads : OfPrimary lines expr) : OfArgument lines expr := by
  intro level row ahead rest bound free placed closes enough
  have deeper : cost expr + 2 ≤ bound + 1 := by omega
  have read := operand_ofUnary reads free placed (ends_of_closing closes) deeper
  exact exprOrType_of_unary (headKind_of_placed placed isChannel) read

theorem value_ofElement (shaped : Shaped (.binary 1) expr) (reads : OfBinary lines expr 1) :
    OfElement lines expr := by
  intro level row ahead rest bound free placed closes enough
  obtain ⟨kind, listed, begins⟩ := shaped.lead_mem
  have noBrace : headKind ahead ≠ .leftBrace := by
    rw [headKind_of_placed placed begins]
    have tested : Kind.leftBrace ∉ (Form.binary 1).leads := by decide
    exact fun isBrace => tested (isBrace ▸ listed)
  refine run (by omega) fun less isLess => ?_
  exact .unlessAt noBrace (closed reads free placed closes (by omega))

theorem elided_ofElement {elements : List Expr} {multiline : Bool}
    (shaped : ∀ e ∈ elements, Shaped .item e) (reads : ∀ e ∈ elements, OfItem lines e)
    (flagged : Flagged elements multiline) :
    OfElement lines (.composite none elements multiline) := by
  intro level row ahead rest bound free placed closes enough
  have size : 16 * (wordsIn (Expr.innerPieces elements multiline) + 2) + 8 ≤ bound := by
    simpa [cost, Expr.pieces_composite] using enough
  have opens : headKind ahead = .leftBrace := headKind_of_placed placed rfl
  refine run (by omega) fun less isLess => .ifAt opens ?_
  refine (compositeBody_rereads none _ shaped reads flagged placed (by omega)).mono ?_
  rintro _ ⟨read, rfl, same⟩
  rw [Same, Expr.unplaced_composite, Expr.unplaced_composite, same]

end Rereading

namespace Shaped

open Rereading

variable {lines : LineIndex} {form : Form} {expr : Expr}

/-- A shaped tree is read back at its place. -/
theorem rereads (shaped : Shaped form expr) : Of lines expr form := by
  induction shaped with
  | name => exact name_ofPrimary
  | literal => exact literal_ofPrimary
  | paren _ ih => exact paren_ofPrimary ih
  | bare _ isBare ih => exact bare_ofPrimary isBare ih
  | selector _ dot _ ih => exact selector_ofPrimary ih dot
  | index _ inside ih positionIh => exact index_ofPrimary ih inside positionIh
  | slice _ lower upper most ih lowIh highIh maxIh =>
      exact slice_ofPrimary ih lower lowIh upper highIh maxIh
  | assertion _ dot asserted ih typeIh => exact assertion_ofPrimary ih dot asserted typeIh
  | call _ inside ih argumentsIh => exact call_ofPrimary ih inside argumentsIh
  | composite _ isType inside flagged ih elementsIh =>
      exact composite_ofPrimary ih isType inside elementsIh flagged
  | operand _ ih => exact operand_ofUnary ih
  | star _ ih => exact star_ofUnary ih
  | prefixed unary noChannel _ ih => exact prefixed_ofUnary unary noChannel ih
  | single _ ih => exact single_ofBinary ih
  | joined binds _ _ beforeIh behindIh => exact joined_ofBinary binds beforeIh behindIh
  | typeName => exact typeName_ofType
  | qualified => exact qualified_ofType
  | pointer _ ih => exact pointer_ofType ih
  | array size _ sizeIh ih => exact array_ofType size sizeIh ih
  | map _ _ keyIh valueIh => exact map_ofType keyIh valueIh
  | anyMap _ keyIh => exact map_ofType keyIh any_ofType
  | chan isType noArrow ih => exact chan_ofType isType noArrow ih
  | group _ ih => exact group_ofType ih
  | plain binary noChannel ih => exact plain_ofArgument binary noChannel ih
  | channel _ isChannel ih => exact channel_ofArgument isChannel ih
  | value binary ih => exact value_ofElement binary ih
  | elided inside flagged ih => exact elided_ofElement inside ih flagged
  | entry _ ih => exact .inl ih
  | pair _ _ keyIh valueIh => exact .inr ⟨_, _, rfl, keyIh, valueIh⟩

end Shaped

end GoMend
