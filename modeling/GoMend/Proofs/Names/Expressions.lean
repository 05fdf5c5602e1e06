import GoMend.Proofs.Names.Types

/-!
# Names in expressions
-/

namespace GoMend

open Lexed (Reads)
open ParserState (reads_skip reads_ident reads_dot)
open GoMend.Parser

namespace Grammar

variable {below : Reader} {state : ParserState}

theorem expr_reads (keeps : below.PassesNames) :
    (expr below).Ensures state fun expr final =>
      Reads false state.ahead expr.idents final.ahead :=
  keeps.reads (.binary 1) rfl rfl

theorem exprList_reads (keeps : below.PassesNames) :
    (exprList below).Ensures state fun exprs final =>
      Reads false state.ahead (Expr.identsAll exprs) final.ahead := by
  simp [exprList]
  refine (expr_reads keeps).weaken fun first middle firstPassed => ?_
  refine (keeps.reads .exprTail rfl rfl).weaken fun others final othersPassed => ?_
  exact firstPassed.trans othersPassed

theorem exprTail_reads (keeps : below.PassesNames) :
    (exprTail below).Ensures state fun exprs final =>
      Reads false state.ahead (Expr.identsAll exprs) final.ahead := by
  simp [exprTail]
  refine ⟨fun comma => ?_, fun _ => .refl⟩
  refine (expr_reads keeps).weaken fun first middle firstPassed => ?_
  refine (keeps.reads .exprTail rfl rfl).weaken fun others final othersPassed => ?_
  exact ((reads_skip comma rfl).trans firstPassed).trans othersPassed

theorem binary_reads (keeps : below.PassesNames) (floor : Nat) :
    (binary below floor).Ensures state fun expr final =>
      Reads false state.ahead expr.idents final.ahead := by
  simp [binary]
  refine (keeps.reads .unary rfl rfl).weaken fun left middle leftPassed => ?_
  refine (keeps (.binaryTail floor left) _).weaken ?_
  rintro expr final ⟨read, same, passed⟩
  exact (leftPassed.trans passed).relist same.symm

/-- The token of a binary operator spells no name. -/
theorem binaryOp_reads {op : BinaryOp} (found : BinaryOp.ofKind? state.kind = some op) :
    Reads false state.ahead [] state.advance.ahead := by
  have kind := BinaryOp.ofKind?_eq_some_iff.1 found
  exact reads_skip kind (by cases op <;> rfl)

theorem binaryTail_passes (keeps : below.PassesNames) (floor : Nat) (left : Expr) :
    (binaryTail below floor left).Ensures state
      ((Production.binaryTail floor left).Passes state) := by
  unfold binaryTail
  simp only [ends_bind, ends_peek]
  split
  case h_1 op found =>
    simp
    refine ⟨fun _ => ⟨[], by simp [Production.idents, Production.heldIdents], .refl⟩,
      fun _ => ?_⟩
    refine (keeps.reads (.binary (op.precedence + 1)) rfl rfl).weaken
      fun right middle rightPassed => ?_
    refine (keeps (.binaryTail floor (.binary left op right)) _).weaken ?_
    rintro expr final ⟨read, same, passed⟩
    refine ⟨right.idents ++ read, ?_, ((binaryOp_reads found).trans rightPassed).trans passed⟩
    rw [← List.append_assoc]
    exact same
  case h_2 =>
    exact ⟨[], by simp [Production.idents, Production.heldIdents], .refl⟩

theorem functionBody_reads (keeps : below.PassesNames) :
    (functionBody below).Ensures state fun body final =>
      Reads false state.ahead body.idents final.ahead := by
  simp [functionBody]
  exact keeps.reads .block rfl rfl

theorem compositeBody_reads (keeps : below.PassesNames) (type : Option Expr) :
    (compositeBody below type).Ensures state fun expr final =>
      ∃ read, expr.idents = Expr.identsAll type.toList ++ read ∧
        Reads false state.ahead read final.ahead := by
  simp [compositeBody]
  intro opening
  refine (keeps.reads .elements rfl rfl).weaken fun elements middle passed close => ?_
  refine ⟨Expr.identsAll elements, ?_, ?_⟩
  · cases type <;> simp [Expr.collect_composite, Expr.collectAll]
  · refine ((reads_skip opening rfl).trans (passed.trans (reads_skip close rfl))).relist ?_
    simp [Production.idents]

theorem element_reads (keeps : below.PassesNames) :
    (element below).Ensures state fun expr final =>
      Reads false state.ahead expr.idents final.ahead := by
  simp [element]
  refine ⟨fun _ => ?_, fun _ => expr_reads keeps⟩
  refine (compositeBody_reads keeps none).weaken ?_
  rintro expr final ⟨read, same, passed⟩
  exact passed.relist same.symm

theorem elements_reads (keeps : below.PassesNames) :
    (elements below).Ensures state fun exprs final =>
      Reads false state.ahead (Expr.identsAll exprs) final.ahead := by
  simp [elements]
  refine ⟨fun _ => .refl, fun _ _ => ?_⟩
  refine (keeps.reads .element rfl rfl).weaken fun first middle firstPassed => ?_
  have more : ∀ (item : Expr) (now : ParserState),
      Reads false state.ahead item.idents now.ahead →
      (below .elements).Ensures now.advance fun others final =>
        now.kind = .comma →
          Reads false state.ahead (Expr.identsAll (item :: others)) final.ahead := by
    intro item now passed
    refine (keeps.reads .elements rfl rfl).weaken fun others final othersPassed comma => ?_
    exact passed.trans ((reads_skip comma rfl).trans othersPassed)
  have single : ∀ (item : Expr) (now : ParserState),
      Reads false state.ahead item.idents now.ahead →
        Reads false state.ahead (Expr.identsAll [item]) now.ahead :=
    fun item now passed => passed.relist (by simp [Expr.collectAll])
  refine ⟨fun colon => ?_, fun _ => ?_⟩
  · refine (keeps.reads .element rfl rfl).weaken fun value now valuePassed => ?_
    have passed : Reads false state.ahead (Expr.keyValue first value).idents now.ahead :=
      firstPassed.trans ((reads_skip colon rfl).trans valuePassed)
    exact ⟨fun comma => (more _ _ passed).weaken fun _ _ reads => reads comma,
      fun _ => single _ _ passed⟩
  · exact ⟨fun comma => (more _ _ firstPassed).weaken fun _ _ reads => reads comma,
      fun _ => single _ _ firstPassed⟩

/-- What stands behind an operand keeps the names of both. -/
theorem primaryTail_reads (keeps : below.PassesNames) {words : List Token} {operand : Expr}
    (operandPassed : Reads false words operand.idents state.ahead) :
    (below (.primaryTail operand)).Ensures state fun expr final =>
      Reads false words expr.idents final.ahead := by
  refine (keeps (.primaryTail operand) state).weaken ?_
  rintro expr final ⟨read, same, passed⟩
  exact (operandPassed.trans passed).relist same.symm

theorem exprOrType_reads (keeps : below.PassesNames) :
    (exprOrType below).Ensures state fun expr final =>
      Reads false state.ahead expr.idents final.ahead := by
  simp [exprOrType]
  refine ⟨fun _ => ?_, fun _ _ => expr_reads keeps⟩
  refine (keeps.reads .type rfl rfl).weaken fun type middle typePassed => ?_
  exact primaryTail_reads keeps typePassed

/-- The token of a literal spells no name. -/
theorem literal_reads {kind : LiteralKind} (found : LiteralKind.ofKind? state.kind = some kind) :
    Reads false state.ahead [] state.advance.ahead := by
  refine reads_skip rfl ?_
  generalize state.kind = shape at found
  cases shape <;> first | rfl | cases found

theorem operand_reads (keeps : below.PassesNames) :
    (operand below).Ensures state fun expr final =>
      Reads false state.ahead expr.idents final.ahead := by
  unfold operand
  simp only [ends_bind, ends_peek]
  split
  case h_1 =>
    simp
    exact reads_ident
  case h_2 opening =>
    simp
    refine (exprOrType_reads keeps).weaken fun inner middle passed close => ?_
    refine ((reads_skip opening rfl).trans (passed.trans (reads_skip close rfl))).relist ?_
    exact List.append_nil inner.idents
  case h_3 word =>
    simp
    refine (signature_reads keeps).weaken fun signature middle passed => ?_
    refine ⟨fun _ => ?_, fun _ => (reads_skip word rfl).trans passed⟩
    refine (functionBody_reads keeps).weaken fun body final bodyPassed => ?_
    exact ((reads_skip word rfl).trans passed).trans bodyPassed
  case h_9 =>
    split
    case h_1 kind found =>
      simp
      exact literal_reads found
    case h_2 => simp
  all_goals exact keeps.reads .type rfl rfl

/-- The token of a unary operator spells no name. -/
theorem unaryOp_reads {op : UnaryOp} (found : UnaryOp.ofKind? state.kind = some op) :
    Reads false state.ahead [] state.advance.ahead := by
  have kind := UnaryOp.ofKind?_eq_some_iff.1 found
  exact reads_skip kind (by cases op <;> rfl)

theorem unary_reads (keeps : below.PassesNames) :
    (unary below).Ensures state fun expr final =>
      Reads false state.ahead expr.idents final.ahead := by
  unfold unary
  simp only [ends_bind, ends_peek, ends_ite, ends_bump, ends_pure, ends_peekSecond]
  refine ⟨fun star => ?_, fun _ => ⟨fun _ => ?_, fun _ => ?_⟩⟩
  · refine (keeps.reads .unary rfl rfl).weaken fun operand final passed => ?_
    exact (reads_skip star rfl).trans passed
  · refine (keeps.reads .type rfl rfl).weaken fun type middle typePassed => ?_
    exact primaryTail_reads keeps typePassed
  · split
    case h_1 op found =>
      simp
      refine (keeps.reads .unary rfl rfl).weaken fun operand final passed => ?_
      exact (unaryOp_reads found).trans passed
    case h_2 =>
      simp
      refine (operand_reads keeps).weaken fun first middle firstPassed => ?_
      exact primaryTail_reads keeps firstPassed

theorem arguments_reads (keeps : below.PassesNames) :
    (arguments below).Ensures state fun result final =>
      Reads false state.ahead (Expr.identsAll result.1) final.ahead := by
  simp [arguments]
  refine ⟨fun _ => .refl, fun _ _ => ?_⟩
  refine (exprOrType_reads keeps).weaken fun first middle firstPassed => ?_
  have firstAlone : Reads false state.ahead (Expr.identsAll [first]) middle.ahead :=
    firstPassed.relist (by simp [Expr.collectAll])
  refine ⟨fun spread => ⟨fun comma => ?_, fun _ => ?_⟩,
    fun _ => ⟨fun comma => ?_, fun _ => firstAlone⟩⟩
  · refine (keeps.reads .arguments rfl rfl).weaken fun others final othersPassed => ?_
    exact firstPassed.trans
      ((reads_skip spread rfl).trans ((reads_skip comma rfl).trans othersPassed))
  · exact (firstAlone.trans (reads_skip spread rfl)).relist (by simp)
  · refine (keeps.reads .arguments rfl rfl).weaken fun others final othersPassed => ?_
    exact firstPassed.trans ((reads_skip comma rfl).trans othersPassed)

theorem sliceBounds_reads (keeps : below.PassesNames) (base : Expr) (low : Option Expr) :
    (sliceBounds below base low).Ensures state fun expr final =>
      ∃ read, expr.idents = base.idents ++ Expr.identsAll low.toList ++ read ∧
        Reads false state.ahead read final.ahead := by
  simp [sliceBounds]
  intro colon
  have ended : ∀ (high : Option Expr) (now : ParserState),
      Reads false state.ahead (Expr.identsAll high.toList) now.ahead →
      (now.kind = .colon → (expr below).Ensures now.advance fun max final =>
        ∃ read, (Expr.slice base low high (some max)).idents =
            base.idents ++ (Expr.identsAll low.toList ++ read) ∧
          Reads false state.ahead read final.ahead) ∧
      (¬now.kind = .colon →
        ∃ read, (Expr.slice base low high none).idents =
            base.idents ++ (Expr.identsAll low.toList ++ read) ∧
          Reads false state.ahead read now.ahead) := by
    intro high now passed
    refine ⟨fun second => ?_, fun _ => ⟨_, ?_, passed⟩⟩
    · refine (expr_reads keeps).weaken fun max final maxPassed => ?_
      refine ⟨_, ?_, passed.trans ((reads_skip second rfl).trans maxPassed)⟩
      cases low <;> cases high <;> simp [Expr.collect_slice, Expr.collectAll]
    · cases low <;> cases high <;> simp [Expr.collect_slice, Expr.collectAll]
  refine ⟨fun _ => ended none _ (reads_skip colon rfl), fun _ _ => ?_⟩
  refine (expr_reads keeps).weaken fun high middle highPassed => ended (some high) middle ?_
  exact ((reads_skip colon rfl).trans highPassed).relist (by simp [Expr.collectAll])

theorem indexOrSlice_reads (keeps : below.PassesNames) (base : Expr) :
    (indexOrSlice below base).Ensures state fun expr final =>
      ∃ read, expr.idents = base.idents ++ read ∧ Reads false state.ahead read final.ahead := by
  simp [indexOrSlice]
  refine ⟨fun _ => ?_, fun _ => ?_⟩
  · refine (sliceBounds_reads keeps base none).weaken ?_
    rintro expr final ⟨read, same, passed⟩
    exact ⟨read, by simpa [Expr.collectAll] using same, passed⟩
  · refine (expr_reads keeps).weaken fun low middle lowPassed => ?_
    refine ⟨fun _ => ?_, fun _ => ⟨low.idents, Expr.collect_index base low, lowPassed⟩⟩
    refine (sliceBounds_reads keeps base (some low)).weaken ?_
    rintro expr final ⟨read, same, passed⟩
    exact ⟨low.idents ++ read, by simpa [Expr.collectAll] using same, lowPassed.trans passed⟩

theorem selectorOrAssertion_reads (keeps : below.PassesNames) (base : Expr) :
    (selectorOrAssertion below base).Ensures state fun expr final =>
      ∃ read, expr.idents = base.idents ++ read ∧ Reads false state.ahead read final.ahead := by
  simp [selectorOrAssertion]
  intro dot
  refine ⟨fun name => ?_, fun _ opening => ⟨fun word close => ?_, fun _ => ?_⟩⟩
  · have passed : Reads false state.ahead ([] ++ [_]) state.advance.advance.ahead :=
      (reads_dot dot (by simp [name])).trans (reads_ident name)
    exact ⟨_, Expr.collect_selector base _, passed⟩
  · have opened : Reads false state.ahead ([] ++ []) state.advance.advance.ahead :=
      (reads_dot dot (by simp [opening])).trans (reads_skip opening rfl)
    exact ⟨[], Expr.collect_assertion base none,
      opened.trans ((reads_skip word rfl).trans (reads_skip close rfl))⟩
  · have opened : Reads false state.ahead ([] ++ []) state.advance.advance.ahead :=
      (reads_dot dot (by simp [opening])).trans (reads_skip opening rfl)
    refine (keeps.reads .type rfl rfl).weaken fun type middle typePassed close => ?_
    refine ⟨type.idents, Expr.collect_assertion base type, ?_⟩
    exact (opened.trans (typePassed.trans (reads_skip close rfl))).relist
      (by simp [Production.idents])

theorem primaryTail_passes (keeps : below.PassesNames) (operand : Expr) :
    (primaryTail below operand).Ensures state
      ((Production.primaryTail operand).Passes state) := by
  have onward : ∀ (next : Expr) (now : ParserState),
      (∃ read, next.idents = operand.idents ++ read ∧ Reads false state.ahead read now.ahead) →
      (below (.primaryTail next)).Ensures now ((Production.primaryTail operand).Passes state) := by
    rintro next now ⟨read, same, passed⟩
    refine (keeps (.primaryTail next) now).weaken ?_
    rintro expr final ⟨more, sameMore, morePassed⟩
    refine ⟨read ++ more, ?_, passed.trans morePassed⟩
    rw [← List.append_assoc]
    exact same ▸ sameMore
  have unchanged : (Production.primaryTail operand).Passes state operand state :=
    ⟨[], by simp [Production.idents, Production.heldIdents], .refl⟩
  unfold primaryTail
  simp only [ends_bind, ends_peek]
  split
  case h_1 =>
    simp only [ends_bind]
    exact (selectorOrAssertion_reads keeps operand).weaken onward
  case h_2 opening =>
    simp
    refine (indexOrSlice_reads keeps operand).weaken ?_
    rintro next middle ⟨read, same, passed⟩ close
    have closed : Reads false state.ahead read middle.advance.ahead :=
      ((reads_skip opening rfl).trans (passed.trans (reads_skip close rfl))).relist (by simp)
    exact onward next _ ⟨read, same, closed⟩
  case h_3 opening =>
    simp
    refine (keeps.reads .arguments rfl rfl).weaken fun arguments middle passed close => ?_
    have closed : Reads false state.ahead (Expr.identsAll arguments.1) middle.advance.ahead :=
      ((reads_skip opening rfl).trans (passed.trans (reads_skip close rfl))).relist
        (by simp [Production.idents])
    exact onward _ _ ⟨Expr.identsAll arguments.1, rfl, closed⟩
  case h_4 =>
    simp
    refine ⟨fun _ _ => ?_, fun _ => unchanged⟩
    refine (compositeBody_reads keeps (some operand)).weaken ?_
    rintro next middle ⟨read, same, passed⟩
    exact onward next middle ⟨read, by simpa [Expr.collectAll] using same, passed⟩
  case h_5 => exact unchanged

end Grammar

end GoMend
