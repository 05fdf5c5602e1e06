import GoMend.Proofs.Formed.Types

/-!
# Expressions are read well-formed

A left operand never binds more loosely than the operator that is read behind it, since whatever
binds more tightly was read before.  What is read behind an operand stays one.
-/

namespace GoMend

open GoMend.Parser

/-- An expression that joins no operands meets every floor. -/
theorem Expr.binds_of_not_isBinary {expr : Expr} (single : expr.isBinary = false) (floor : Nat) :
    expr.binds floor := by
  cases expr with
  | binary => cases single
  | _ => trivial

theorem Expr.isBinary_of_isOperand {expr : Expr} (operand : expr.isOperand = true) :
    expr.isBinary = false := by
  cases expr with
  | binary => cases operand
  | _ => rfl

namespace Grammar

variable {source : List Token} {below : Reader} [∀ production, Forward (below production)]

/-! ## Lists -/

theorem forms_exprTail (forms : below.Forms source) :
    (exprTail below).Gives (Within source) fun exprs =>
      ∀ expr ∈ exprs, expr.Formed source .value := by
  apply Gives.after
  intro more
  apply Gives.ite
  · apply (forms_expr forms).bind
    intro next formed
    apply Gives.bind (forms.each .exprTail)
    intro rest restFormed
    exact .pure (List.forall_mem_cons.2 ⟨formed, restFormed⟩)
  · exact .pure (List.forall_mem_nil _)

theorem forms_exprList (forms : below.Forms source) :
    (exprList below).Gives (Within source) fun exprs =>
      exprs ≠ [] ∧ ∀ expr ∈ exprs, expr.Formed source .value := by
  apply (forms_expr forms).bind
  intro first formed
  apply Gives.bind (forms.each .exprTail)
  intro rest restFormed
  exact .pure ⟨List.cons_ne_nil _ _, List.forall_mem_cons.2 ⟨formed, restFormed⟩⟩

/-! ## Operators -/

theorem forms_binary (forms : below.Forms source) (floor : Nat) (state : ParserState)
    (here : Within source state.ahead) :
    (binary below floor).Ensures state fun expr final =>
      expr.Formed source .value ∧ expr.binds floor ∧ Loose floor final.kind := by
  rw [binary, Ensures, ends_bind]
  apply (forms_within forms .unary here).weaken
  intro left middle read
  obtain ⟨⟨leftFormed, single⟩, inside⟩ := read
  apply (forms.each (.binaryTail floor left) middle inside).weaken
  intro expr final formed
  exact formed leftFormed (left.binds_of_not_isBinary single floor)
    fun op _ => left.binds_of_not_isBinary single op.precedence

/-- The operator behind a right operand binds at most as tightly as the one in front of it, so the
two operands joined are a left operand for it. -/
theorem forms_binaryTail (forms : below.Forms source) (floor : Nat) (left : Expr)
    (state : ParserState) (here : Within source state.ahead) :
    (binaryTail below floor left).Ensures state fun expr final =>
      left.Formed source .value → left.binds floor →
        (∀ op, BinaryOp.ofKind? state.kind = some op → left.binds op.precedence) →
          expr.Formed source .value ∧ expr.binds floor ∧ Loose floor final.kind := by
  rw [binaryTail, Ensures, ends_bind, ends_peek]
  split
  · rename_i op isOp
    rw [ends_ite]
    constructor
    · intro below formed binds _
      constructor
      · exact formed
      · constructor
        · exact binds
        · intro other isOther
          rw [isOp] at isOther
          cases isOther
          exact below
    · intro above
      rw [ends_bind, ends_bump, ends_bind]
      apply (forms_within forms (.binary (op.precedence + 1)) here.advance).weaken
      intro right middle read
      obtain ⟨⟨rightFormed, tighter, loose⟩, inside⟩ := read
      apply (forms.each (.binaryTail floor (.binary left op right)) middle inside).weaken
      intro expr final formed before binds grouped
      apply formed
      · exact .binary before (grouped op isOp) rightFormed tighter
      · exact Nat.not_lt.1 above
      · intro other isOther
        exact Nat.le_of_lt_succ (loose other isOther)
  · rename_i noOp
    intro formed binds _
    constructor
    · exact formed
    · constructor
      · exact binds
      · intro other isOther
        rw [noOp] at isOther
        cases isOther

/-! ## Literals -/

/-- The braces of a composite literal, whose type is well-formed if there is one. -/
theorem forms_compositeBody (forms : below.Forms source) (type : Option Expr) :
    (compositeBody below type).Gives (Within source) fun expr => ∃ elements multiline,
      expr = .composite type elements multiline ∧ ∀ item ∈ elements, item.Formed source .item := by
  apply Gives.after
  intro opening
  have items : (fresh (below .elements)).Gives (Within source) fun items : List Expr =>
      ∀ item ∈ items, item.Formed source .item := Gives.atLevel (forms.each .elements)
  apply items.bind
  intro elements formed
  apply Gives.after
  intro close
  apply Gives.after
  intro lines
  exact .pure ⟨elements, _, rfl, formed⟩

theorem forms_element (forms : below.Forms source) :
    (element below).Gives (Within source) (·.Formed source .element) := by
  apply Gives.after
  intro untyped
  apply Gives.ite
  · apply (forms_compositeBody forms none).weaken
    intro expr literal
    obtain ⟨elements, multiline, rfl, formed⟩ := literal
    exact .untyped multiline formed
  · exact (forms_expr forms).weaken fun _ formed => .element formed

theorem forms_elements (forms : below.Forms source) :
    (elements below).Gives (Within source) fun items =>
      ∀ item ∈ items, item.Formed source .item := by
  have further : ∀ item : Expr, item.Formed source .item → (do
      if ← eat .comma then return item :: (← below .elements)
      else return [item] : Parser (List Expr)).Gives (Within source) fun items =>
        ∀ item ∈ items, item.Formed source .item := by
    intro item formed
    apply Gives.after
    intro more
    apply Gives.ite
    · apply Gives.bind (forms.each .elements)
      intro rest restFormed
      exact .pure (List.forall_mem_cons.2 ⟨formed, restFormed⟩)
    · exact .pure (List.forall_mem_singleton.2 formed)
  apply Gives.after
  intro ends
  apply Gives.ite
  · exact .pure (List.forall_mem_nil _)
  · apply Gives.bind (forms.each .element)
    intro first formed
    apply Gives.after
    intro paired
    apply Gives.ite
    · apply Gives.bind (forms.each .element)
      intro value valueFormed
      exact further _ (.keyValue formed valueFormed)
    · exact further first (.item formed)

/-! ## Operands -/

/-- What begins with the keyword of a channel or interface type is a type that something may stand
behind. -/
theorem forms_exprOrType (forms : below.Forms source) :
    (exprOrType below).Gives (Within source) (·.Formed source .value) := by
  intro state here
  rw [exprOrType, Ensures, ends_bind, ends_atAny, ends_ite]
  constructor
  · intro opens
    rw [ends_bind]
    apply (forms_within forms .type here).weaken
    intro type middle read
    obtain ⟨⟨typeFormed, _, operand⟩, inside⟩ := read
    have unstarred : state.kind ≠ .star := by
      intro isStar
      rw [isStar] at opens
      cases opens
    apply (forms.each (.primaryTail type) middle inside).weaken
    intro expr final formed
    exact (formed typeFormed (operand unstarred)).1
  · intro _
    exact forms_expr forms state here

omit [∀ production, Forward (below production)] in
theorem forms_functionBody (forms : below.Forms source) :
    (functionBody below).Gives (Within source) (·.Formed source) := by
  have body : (fresh (below .block)).Gives (Within source) (·.Formed source) :=
    Gives.atLevel (forms.each .block)
  exact body

theorem forms_operand (forms : below.Forms source) :
    (operand below).Gives (Within source) fun expr =>
      expr.Formed source .value ∧ expr.isOperand = true := by
  intro state here
  have typed : state.kind ≠ .star → (below .type).Ensures state fun expr _ =>
      expr.Formed source .value ∧ expr.isOperand = true := fun unstarred =>
    (forms.each .type state here).weaken fun _ _ formed => ⟨formed.1, formed.2.2 unstarred⟩
  rw [operand, Ensures, ends_bind, ends_peek]
  split
  case h_1 =>
    have named : (do return .ident (← ident) : Parser Expr).Gives (Within source) fun expr =>
        expr.Formed source .value ∧ expr.isOperand = true := by
      apply Gives.after
      intro name
      exact .pure ⟨.ident name, rfl⟩
    exact named state here
  case h_2 =>
    have inside : (do
        let _ ← bump
        let inner ← nested (exprOrType below)
        let _ ← expect .rightParen
        return .paren inner : Parser Expr).Gives (Within source) fun expr =>
          expr.Formed source .value ∧ expr.isOperand = true := by
      apply Gives.after
      intro _
      apply (forms_exprOrType forms).nested.bind
      intro inner formed
      apply Gives.after
      intro _
      exact .pure ⟨.paren formed, rfl⟩
    exact inside state here
  case h_3 =>
    have function : (do
        let _ ← bump
        let signature ← signature below
        if ← at? .leftBrace then return .function signature (← functionBody below)
        else return .funcType signature : Parser Expr).Gives (Within source) fun expr =>
          expr.Formed source .value ∧ expr.isOperand = true := by
      apply Gives.after
      intro _
      apply (forms_signature forms).bind
      intro signature typed
      apply Gives.after
      intro bodied
      apply Gives.ite
      · apply (forms_functionBody forms).bind
        intro body formed
        exact .pure ⟨.function typed formed, rfl⟩
      · exact .pure ⟨.funcType typed, rfl⟩
    exact function state here
  case h_4 isBracket => exact typed (by rw [isBracket]; decide)
  case h_5 isMap => exact typed (by rw [isMap]; decide)
  case h_6 isChan => exact typed (by rw [isChan]; decide)
  case h_7 isStruct => exact typed (by rw [isStruct]; decide)
  case h_8 isInterface => exact typed (by rw [isInterface]; decide)
  case h_9 =>
    split
    · rename_i literalKind _
      have literal : (do return .literal (toLiteral literalKind (← bump)) : Parser Expr).Gives
          (Within source) fun expr => expr.Formed source .value ∧ expr.isOperand = true := by
        apply Gives.after
        intro word
        exact .pure ⟨.literal _, rfl⟩
      exact literal state here
    · exact trivial

/-- An operand behind prefix operators is one without them, or the first of them stands in front of
the rest. -/
theorem unary_cases (forms : below.Forms source) (state : ParserState)
    (here : Within source state.ahead) :
    (unary below).Ensures state fun expr final =>
      (expr.Formed source .value ∧ expr.isOperand = true) ∨
        (∃ inner, expr = .star inner ∧ state.kind = .star ∧
          below .unary state.advance = .ok inner final) ∨
        ∃ op operand, expr = .unary op operand ∧ UnaryOp.ofKind? state.kind = some op ∧
          below .unary state.advance = .ok operand final := by
  have followed : ∀ first : Expr, first.Formed source .value ∧ first.isOperand = true →
      (below (.primaryTail first)).Gives (Within source) fun expr =>
        expr.Formed source .value ∧ expr.isOperand = true := by
    intro first read middle inside
    apply (forms.each (.primaryTail first) middle inside).weaken
    intro expr final followed
    exact followed read.1 read.2
  rw [unary, Ensures, ends_bind, ends_peek, ends_ite]
  constructor
  · intro isStar
    rw [ends_bind, ends_bump, ends_bind]
    apply ensures_of_ok
    intro inner final run
    exact .inr (.inl ⟨inner, rfl, isStar, run⟩)
  · intro unstarred
    rw [ends_bind, ends_peekSecond, ends_ite]
    constructor
    · intro _
      rw [ends_bind]
      apply (forms_within forms .type here).weaken
      intro type middle read
      obtain ⟨⟨formed, _, operand⟩, inside⟩ := read
      apply (followed type ⟨formed, operand unstarred⟩ middle inside).weaken
      exact fun _ _ => .inl
    · intro _
      split
      · rename_i op isOp
        rw [ends_bind, ends_bump, ends_bind]
        apply ensures_of_ok
        intro operand final run
        exact .inr (.inr ⟨op, operand, rfl, isOp, run⟩)
      · apply (((forms_operand forms).bind followed) state here).weaken
        exact fun _ _ => .inl

theorem forms_unary (forms : below.Forms source) (state : ParserState)
    (here : Within source state.ahead) :
    (unary below).Ensures state fun expr _ =>
      expr.Formed source .value ∧ expr.isBinary = false := by
  apply (unary_cases forms state here).weaken
  intro expr final read
  cases read with
  | inl operand => exact ⟨operand.1, Expr.isBinary_of_isOperand operand.2⟩
  | inr prefixed =>
      cases prefixed with
      | inl starred =>
          obtain ⟨inner, rfl, _, run⟩ := starred
          have formed := (forms.each .unary state.advance here.advance).of_ok run
          exact ⟨.star formed.1 formed.2, rfl⟩
      | inr signed =>
          obtain ⟨op, operand, rfl, _, run⟩ := signed
          have formed := (forms.each .unary state.advance here.advance).of_ok run
          exact ⟨.unary op formed.1 formed.2, rfl⟩

/-! ## Behind an operand -/

theorem forms_arguments (forms : below.Forms source) :
    (arguments below).Gives (Within source) fun read =>
      (∀ argument ∈ read.1, argument.Formed source .value) ∧
      (read.2 = true → read.1 ≠ []) := by
  apply Gives.after
  intro ends
  apply Gives.ite
  · exact .pure ⟨List.forall_mem_nil _, by simp⟩
  · apply (forms_exprOrType forms).bind
    intro first formed
    apply Gives.after
    intro spread
    apply Gives.after
    intro more
    apply Gives.ite
    · apply Gives.bind (forms.each .arguments)
      intro rest restFormed
      exact .pure ⟨List.forall_mem_cons.2 ⟨formed, restFormed.1⟩, fun _ => List.cons_ne_nil _ _⟩
    · exact .pure ⟨List.forall_mem_singleton.2 formed, fun _ => List.cons_ne_nil _ _⟩

variable {base : Expr}

theorem forms_sliceBounds (forms : below.Forms source) (formed : base.Formed source .value)
    (operand : base.isOperand = true) {low : Option Expr}
    (lower : ∀ bound ∈ low, bound.Formed source .value) :
    (sliceBounds below base low).Gives (Within source) fun expr =>
      expr.Formed source .value ∧ expr.isOperand = true := by
  have most : ∀ high : Option Expr, (∀ bound ∈ high, bound.Formed source .value) → (do
      let max ← if ← eat .colon then pure (some (← expr below)) else pure none
      return .slice base low high max : Parser Expr).Gives (Within source) fun expr =>
        expr.Formed source .value ∧ expr.isOperand = true := by
    intro high upper
    apply Gives.after
    intro more
    apply Gives.ite
    · apply (forms_expr forms).bind
      intro max formedMax
      exact .pure ⟨.slice formed operand lower upper fun _ same =>
        Option.some.inj same ▸ formedMax, rfl⟩
    · exact .pure ⟨.slice formed operand lower upper (by simp), rfl⟩
  apply Gives.after
  intro _
  apply Gives.after
  intro ends
  apply Gives.ite
  · exact most none (by simp)
  · apply (forms_expr forms).bind
    intro high formedHigh
    exact most (some high) fun _ same => Option.some.inj same ▸ formedHigh

theorem forms_indexOrSlice (forms : below.Forms source) (formed : base.Formed source .value)
    (operand : base.isOperand = true) :
    (indexOrSlice below base).Gives (Within source) fun expr =>
      expr.Formed source .value ∧ expr.isOperand = true := by
  apply Gives.after
  intro unbounded
  apply Gives.ite
  · exact forms_sliceBounds forms formed operand (by simp)
  · apply (forms_expr forms).bind
    intro low formedLow
    apply Gives.after
    intro sliced
    apply Gives.ite
    · exact forms_sliceBounds forms formed operand fun _ same =>
        Option.some.inj same ▸ formedLow
    · exact .pure ⟨.index formed operand formedLow, rfl⟩

theorem forms_selectorOrAssertion (forms : below.Forms source) (formed : base.Formed source .value)
    (operand : base.isOperand = true) :
    (selectorOrAssertion below base).Gives (Within source) fun expr =>
      expr.Formed source .value ∧ expr.isOperand = true := by
  have asserted : ∀ type : Option Expr, (∀ asserted ∈ type, asserted.Formed source .value) → (do
      let _ ← expect .rightParen
      return .assertion base type : Parser Expr).Gives (Within source) fun expr =>
        expr.Formed source .value ∧ expr.isOperand = true := by
    intro type typed
    apply Gives.after
    intro _
    exact .pure ⟨.assertion formed operand typed, rfl⟩
  apply Gives.after
  intro _
  apply Gives.after
  intro selects
  apply Gives.ite
  · apply Gives.after
    intro name
    exact .pure ⟨.selector name formed operand, rfl⟩
  · apply Gives.after
    intro _
    apply Gives.after
    intro switched
    apply Gives.ite
    · exact asserted none (by simp)
    · apply (forms_type_below forms).bind
      intro type typed
      exact asserted (some type) fun _ same => Option.some.inj same ▸ typed

theorem forms_primaryTail (forms : below.Forms source) (formed : base.Formed source .value)
    (operand : base.isOperand = true) :
    (primaryTail below base).Gives (Within source) fun expr =>
      expr.Formed source .value ∧ expr.isOperand = true := by
  have further : ∀ next : Expr, next.Formed source .value ∧ next.isOperand = true →
      (below (.primaryTail next)).Gives (Within source) fun expr =>
        expr.Formed source .value ∧ expr.isOperand = true := fun next read state here =>
    (forms.each (.primaryTail next) state here).weaken fun _ _ followed => followed read.1 read.2
  apply Gives.after
  intro kind
  split
  · exact (forms_selectorOrAssertion forms formed operand).bind further
  · apply Gives.after
    intro _
    apply (forms_indexOrSlice forms formed operand).nested.bind
    intro next read
    apply Gives.after
    intro _
    exact further next read
  · apply Gives.after
    intro _
    have called : (nested (below .arguments)).Gives (Within source) fun read =>
        (∀ argument ∈ read.1, argument.Formed source .value) ∧ (read.2 = true → read.1 ≠ []) :=
      Gives.atLevel (forms.each .arguments)
    apply called.bind
    intro read argumentsFormed
    apply Gives.after
    intro _
    exact further _ ⟨.call formed operand argumentsFormed.1 argumentsFormed.2, rfl⟩
  · apply Gives.after
    intro now
    apply Gives.ite
    · apply (forms_compositeBody forms (some base)).bind
      intro next literal
      obtain ⟨elements, multiline, rfl, items⟩ := literal
      exact further _ ⟨.composite multiline formed items, rfl⟩
    · exact .pure ⟨formed, operand⟩
  · exact .pure ⟨formed, operand⟩

end Grammar

end GoMend
