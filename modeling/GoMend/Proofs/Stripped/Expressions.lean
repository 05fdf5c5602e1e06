import GoMend.Grammar.Expressions
import GoMend.Proofs.Stripped.Types

/-!
# Expressions read side by side
-/

namespace GoMend.Grammar

open GoMend.Parser

theorem isTypeName_stripped (expr : Expr) : isTypeName expr.stripped = isTypeName expr := by
  cases expr with
  | selector base name => cases base <;> rfl
  | _ => rfl

theorem isLiteralType_stripped (expr : Expr) :
    isLiteralType expr.stripped = isLiteralType expr := by
  cases expr with
  | selector base name => cases base <;> rfl
  | _ => rfl

variable {start start' : ParserState} {below : Reader} (reads : below.Agrees start start')

include reads

theorem agrees_expr : Agrees start start' (SameBy Expr.stripped) (expr below) (expr below) :=
  reads.each (.binary 1)

theorem agrees_exprList : Agrees start start' (SameBy Expr.strippedAll) (exprList below)
    (exprList below) :=
  (agrees_expr reads).bind fun _ _ sameFirst => (reads.each .exprTail).bind fun _ _ sameRest =>
    .pure (congrArg₂ List.cons sameFirst sameRest)

theorem agrees_exprTail : Agrees start start' (SameBy Expr.strippedAll) (exprTail below)
    (exprTail below) :=
  .check (agrees_eat _)
    ((agrees_expr reads).bind fun _ _ sameFirst => (reads.each .exprTail).bind
      fun _ _ sameRest => .pure (congrArg₂ List.cons sameFirst sameRest))
    (.pure rfl)

theorem agrees_binary (floor : Nat) : Agrees start start' (SameBy Expr.stripped)
    (binary below floor) (binary below floor) :=
  (reads.each .unary).bind fun _ _ sameLeft => reads.binaryTail floor sameLeft

theorem agrees_binaryTail (floor : Nat) {left left' : Expr}
    (sameLeft : SameBy Expr.stripped left left') : Agrees start start' (SameBy Expr.stripped)
      (binaryTail below floor left) (binaryTail below floor left') := by
  refine agrees_peek fun kind => Agrees.at ?_
  split
  · rename_i op _
    refine .ite (fun _ => .pure sameLeft) fun _ => agrees_bump.bind fun _ _ _ => ?_
    refine (reads.each (.binary _)).bind fun _ _ sameRight => reads.binaryTail floor ?_
    exact congrArg₂ (Expr.binary · op ·) sameLeft sameRight
  · exact .pure sameLeft

theorem agrees_functionBody : Agrees start start' (SameBy Block.stripped) (functionBody below)
    (functionBody below) :=
  (reads.each .block).fresh

/-- On how many lines a literal was written makes no difference. -/
theorem agrees_compositeBody {type type' : Option Expr}
    (sameType : SameBy Expr.strippedOptional type type') :
    Agrees start start' (SameBy Expr.stripped) (compositeBody below type)
      (compositeBody below type') :=
  (agrees_expect _).bind fun _ _ _ => (reads.each .elements).fresh.bind fun _ _ sameElements =>
    (agrees_expect _).bind fun _ _ _ => agrees_get.bind fun _ _ _ =>
      .pure (congrArg₂ (Expr.composite · · false) sameType sameElements)

theorem agrees_element : Agrees start start' (SameBy Expr.stripped) (element below)
    (element below) :=
  .check (agrees_at? _) (agrees_compositeBody reads rfl) (agrees_expr reads)

theorem agrees_elements : Agrees start start' (SameBy Expr.strippedAll) (elements below)
    (elements below) := by
  refine .check (agrees_atAny _) (.pure rfl) ((reads.each .element).bind fun first first'
    sameFirst => ?_)
  refine (agrees_eat _).bind fun keyed _ same => ?_
  subst same
  extract_lets next
  have goesOn : ∀ item item', SameBy Expr.stripped item item' →
      Agrees start start' (SameBy Expr.strippedAll) (next item) (next item') :=
    fun _ _ sameItem => .check (agrees_eat _)
      ((reads.each .elements).bind fun _ _ sameRest =>
        .pure (congrArg₂ List.cons sameItem sameRest))
      (.pure (congrArg ([·]) sameItem))
  exact .ite
    (fun _ => (reads.each .element).bind fun _ _ sameValue =>
      goesOn _ _ (congrArg₂ Expr.keyValue sameFirst sameValue))
    fun _ => goesOn _ _ sameFirst

theorem agrees_exprOrType : Agrees start start' (SameBy Expr.stripped) (exprOrType below)
    (exprOrType below) :=
  .check (agrees_atAny _)
    ((reads.each .type).bind fun _ _ sameType => reads.primaryTail sameType)
    (agrees_expr reads)

theorem agrees_operand : Agrees start start' (SameBy Expr.stripped) (operand below)
    (operand below) := by
  refine agrees_peek fun kind => ?_
  split
  · exact Agrees.at (agrees_ident.bind fun _ _ same => .pure (congrArg Expr.ident same))
  · exact Agrees.at (agrees_bump.bind fun _ _ _ => (agrees_exprOrType reads).nested.bind
      fun _ _ same => (agrees_expect _).bind fun _ _ _ => .pure (congrArg Expr.paren same))
  · exact Agrees.at (agrees_bump.bind fun _ _ _ => (agrees_signature reads).bind
      fun _ _ sameSignature => .check (agrees_at? _)
        ((agrees_functionBody reads).bind fun _ _ sameBody =>
          .pure (congrArg₂ Expr.function sameSignature sameBody))
        (.pure (congrArg Expr.funcType sameSignature)))
  · exact (reads.each .type).at
  · exact (reads.each .type).at
  · exact (reads.each .type).at
  · exact (reads.each .type).at
  · exact (reads.each .type).at
  · split
    · rename_i literal isLiteral
      have spelled : kind ≠ .semicolon := by
        rintro rfl
        cases isLiteral
      exact agreesAt_bump fun _ _ read =>
        .pure (congrArg Expr.literal (read.toLiteral spelled literal))
    · exact (agrees_fail _).at

theorem agrees_unary : Agrees start start' (SameBy Expr.stripped) (unary below) (unary below) := by
  refine agrees_peek fun kind => Agrees.at ?_
  refine .ite (fun _ => agrees_bump.bind fun _ _ _ => (reads.each .unary).bind fun _ _ same =>
    .pure (congrArg Expr.star same)) fun _ => ?_
  refine agrees_peekSecond.bind fun second _ same => ?_
  subst same
  refine .ite (fun _ => (reads.each .type).bind fun _ _ same => reads.primaryTail same)
    fun _ => ?_
  split
  · exact agrees_bump.bind fun _ _ _ => (reads.each .unary).bind fun _ _ same =>
      .pure (congrArg (Expr.unary _) same)
  · exact (agrees_operand reads).bind fun _ _ same => reads.primaryTail same

theorem agrees_arguments : Agrees start start' (SameBy Production.arguments.stripped)
    (arguments below) (arguments below) := by
  refine .check (agrees_atAny _) (.pure rfl) ((agrees_exprOrType reads).bind fun first first'
    sameFirst => ?_)
  refine (agrees_eat _).bind fun spread _ same => ?_
  subst same
  refine .check (agrees_eat _) ((reads.each .arguments).bind fun rest rest' sameRest => .pure ?_)
    (.pure (congrArg (([·], spread)) sameFirst))
  obtain ⟨sameRest, sameSpread⟩ := Prod.mk.inj sameRest
  exact congrArg₂ Prod.mk (congrArg₂ List.cons sameFirst sameRest)
    (congrArg (spread || ·) sameSpread)

section

variable {base base' : Expr} (sameBase : SameBy Expr.stripped base base')

include sameBase

theorem agrees_sliceBounds {low low' : Option Expr}
    (sameLow : SameBy Expr.strippedOptional low low') : Agrees start start' (SameBy Expr.stripped)
      (sliceBounds below base low) (sliceBounds below base' low') := by
  refine (agrees_expect _).bind fun _ _ _ => (agrees_atAny _).bind fun open_ _ same => ?_
  subst same
  extract_lets next next'
  have goesOn : ∀ high high', SameBy Expr.strippedOptional high high' →
      Agrees start start' (SameBy Expr.stripped) (next high) (next' high') := by
    intro high high' sameHigh
    refine (agrees_eat _).bind fun full _ same => ?_
    subst same
    have ends : ∀ max max', SameBy Expr.strippedOptional max max' →
        SameBy Expr.stripped (.slice base low high max) (.slice base' low' high' max') := by
      intro max max' sameMax
      have bounds := congr (congr (congrArg₂ Expr.slice sameBase sameLow) sameHigh) sameMax
      exact bounds
    exact .ite
      (fun _ => (agrees_expr reads).bind fun _ _ sameMax =>
        .pure (ends _ _ (congrArg some sameMax)))
      fun _ => .pure (ends _ _ rfl)
  exact .ite (fun _ => goesOn _ _ rfl)
    fun _ => (agrees_expr reads).bind fun _ _ sameHigh => goesOn _ _ (congrArg some sameHigh)

theorem agrees_indexOrSlice : Agrees start start' (SameBy Expr.stripped) (indexOrSlice below base)
    (indexOrSlice below base') :=
  .check (agrees_at? _) (agrees_sliceBounds reads sameBase rfl)
    ((agrees_expr reads).bind fun _ _ sameLow => .check (agrees_at? _)
      (agrees_sliceBounds reads sameBase (congrArg some sameLow))
      (.pure (congrArg₂ Expr.index sameBase sameLow)))

theorem agrees_selectorOrAssertion : Agrees start start' (SameBy Expr.stripped)
    (selectorOrAssertion below base) (selectorOrAssertion below base') := by
  refine (agrees_expect _).bind fun _ _ _ => .check (agrees_at? _)
    (agrees_ident.bind fun _ _ sameName => .pure (congrArg₂ Expr.selector sameBase sameName)) ?_
  refine (agrees_expect _).bind fun _ _ _ => (agrees_eat _).bind fun guard_ _ same => ?_
  subst same
  extract_lets next next'
  have goesOn : ∀ type type', SameBy Expr.strippedOptional type type' →
      Agrees start start' (SameBy Expr.stripped) (next type) (next' type') :=
    fun _ _ sameType => (agrees_expect _).bind fun _ _ _ =>
      .pure (congrArg₂ Expr.assertion sameBase sameType)
  exact .ite (fun _ => goesOn _ _ rfl)
    fun _ => (reads.each .type).bind fun _ _ sameType => goesOn _ _ (congrArg some sameType)

end

theorem agrees_primaryTail {operand operand' : Expr}
    (sameOperand : SameBy Expr.stripped operand operand') : Agrees start start'
      (SameBy Expr.stripped) (primaryTail below operand) (primaryTail below operand') := by
  refine agrees_peek fun kind => Agrees.at ?_
  have typeName : isTypeName operand = isTypeName operand' := by
    rw [← isTypeName_stripped operand, sameOperand, isTypeName_stripped]
  have literalType : isLiteralType operand = isLiteralType operand' := by
    rw [← isLiteralType_stripped operand, sameOperand, isLiteralType_stripped]
  split
  · exact (agrees_selectorOrAssertion reads sameOperand).bind fun _ _ same =>
      reads.primaryTail same
  · exact agrees_bump.bind fun _ _ _ => (agrees_indexOrSlice reads sameOperand).nested.bind
      fun _ _ same => (agrees_expect _).bind fun _ _ _ => reads.primaryTail same
  · refine agrees_bump.bind fun _ _ _ => (reads.each .arguments).nested.bind
      fun read read' sameRead => (agrees_expect _).bind fun _ _ _ => reads.primaryTail ?_
    obtain ⟨sameArguments, sameSpread⟩ := Prod.mk.inj sameRead
    have call := congr (congrArg₂ Expr.call sameOperand sameArguments) sameSpread
    exact call
  · refine agrees_get.bind fun state state' along => ?_
    have sameType : SameBy Expr.strippedOptional (some operand) (some operand') :=
      congrArg some sameOperand
    rw [literalType, typeName, along.level]
    exact .ite
      (fun _ => (agrees_compositeBody reads sameType).bind
        fun _ _ same => reads.primaryTail same)
      fun _ => .pure sameOperand
  · exact .pure sameOperand

end GoMend.Grammar
