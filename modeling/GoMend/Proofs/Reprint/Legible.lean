import GoMend.Proofs.Reprint.Shape

/-!
# Shaped trees are legible

The layout of a shaped tree begins with a word that may stand behind any opening bracket, ends
with a word behind which any closing bracket may stand, and lets no two words in it fuse.
-/

namespace GoMend

open Token (Lexeme Joins extensions opensWith goesOn fixedKinds lexeme_spelling)
open Piece (Legible Pen)

/-! ## Words side by side -/

namespace Token

/-- A test that tells from the spellings that two words do not fuse. -/
def apart (left right : Kind) : Bool :=
  (left ∈ Kind.operators ++ Kind.punctuation &&
      (extensions left).all fun c => !opensWith right c) ||
    (right ∈ fixedKinds && right.spelling.toList.head?.all fun c => !goesOn left c)

theorem Joins.of_apart {left right : Kind} (test : apart left right = true) :
    Joins left right := by
  rw [apart, Bool.or_eq_true, Bool.and_eq_true, Bool.and_eq_true, decide_eq_true_iff,
    decide_eq_true_iff] at test
  rcases test with ⟨mark, extended⟩ | ⟨mark, head⟩
  · exact .of_extensions mark extended
  · exact .of_head mark head

end Token

/-! ## First and last words -/

namespace Form

/-- The words that an operand may begin with. -/
def operandLeads : List Kind :=
  [.identifier, .int, .float, .imaginary, .char, .string, .leftParen, .leftBracket, .mapKw,
    .chanKw, .arrow]

/-- The words that may stand before an operand. -/
def prefixLeads : List Kind :=
  [.star, .plus, .minus, .bang, .caret, .amp, .arrow, .tilde]

/-- The words that a tree at the place may begin with. -/
def leads : Form → List Kind
  | .primary => operandLeads
  | .element | .item => .leftBrace :: prefixLeads ++ operandLeads
  | _ => prefixLeads ++ operandLeads

theorem operandLeads_subset (form : Form) : operandLeads ⊆ form.leads := by
  intro kind listed
  cases form with
  | primary => exact listed
  | element => exact List.mem_cons_of_mem _ (List.mem_append_right _ listed)
  | item => exact List.mem_cons_of_mem _ (List.mem_append_right _ listed)
  | _ => exact List.mem_append_right _ listed

theorem leads_subset (form : Form) : form.leads ⊆ Form.item.leads := by
  intro kind listed
  cases form with
  | primary => exact operandLeads_subset .item listed
  | element => exact listed
  | item => exact listed
  | _ => exact List.mem_cons_of_mem _ listed

/-- Whether what is read at the place may have more of an operand behind it. -/
def takesTail : Form → Bool
  | .primary | .type => true
  | _ => false

/-- The numbers among the words. -/
def numbers : List Kind :=
  [.int, .float, .imaginary]

/-- The other words that a tree may end in. -/
def closers : List Kind :=
  [.identifier, .char, .string, .rightParen, .rightBracket, .rightBrace]

/-- The words behind which a tree may stand without a blank. -/
def openers : List Kind :=
  [.leftParen, .leftBracket, .leftBrace, .rightBracket, .colon, .star]

/-- The words that may stand behind a tree without a blank. -/
def followers : List Kind :=
  [.leftParen, .leftBracket, .leftBrace, .rightParen, .rightBracket, .rightBrace, .comma, .colon]

theorem joins_opener {left right : Kind} (opens : left ∈ openers) {form : Form}
    (leads : right ∈ form.leads) : Joins left right := by
  have tested : ∀ left ∈ openers, ∀ right ∈ Form.item.leads, Token.apart left right = true := by
    decide
  exact .of_apart (tested left opens right (leads_subset form leads))

theorem joins_follower {left right : Kind} (ends : left ∈ numbers ++ closers)
    (follows : right ∈ followers) : Joins left right := by
  have tested : ∀ left ∈ numbers ++ closers, ∀ right ∈ followers,
      Token.apart left right = true := by
    decide
  exact .of_apart (tested left ends right follows)

theorem joins_dot {left : Kind} (ends : left ∈ closers) : Joins left .dot := by
  have tested : ∀ left ∈ closers, Token.apart left .dot = true := by
    decide
  exact .of_apart (tested left ends)

theorem joins_prefix {op : UnaryOp} {right : Kind} (leads : right ∈ prefixLeads ++ operandLeads)
    (keepsApart : op.fuses = true → right ≠ op.kind)
    (noOperator : op = .address → right ≠ .caret) : Joins op.kind right := by
  have tested : ∀ right ∈ prefixLeads ++ operandLeads,
      (op.fuses = true → right ≠ op.kind) → (op = .address → right ≠ .caret) →
        Token.apart op.kind right = true := by
    cases op <;> decide
  exact .of_apart (tested right leads keepsApart noOperator)

end Form

namespace Shaped

variable {form : Form} {expr : Expr}

theorem lead?_append {left right : List Piece} {kinds : List Kind}
    (lead : ∃ kind ∈ kinds, Piece.lead? left = some kind) :
    ∃ kind ∈ kinds, Piece.lead? (left ++ right) = some kind :=
  lead.imp fun _ found => ⟨found.1, Piece.lead?_append found.2⟩

theorem lead_operand (lead : ∃ kind ∈ Form.operandLeads, expr.lead? = some kind) :
    ∃ kind ∈ form.leads, expr.lead? = some kind :=
  lead.imp fun _ found => ⟨form.operandLeads_subset found.1, found.2⟩

/-- The first word of a shaped tree. -/
theorem lead_mem (shaped : Shaped form expr) : ∃ kind ∈ form.leads, expr.lead? = some kind := by
  induction shaped with
  | name => exact ⟨.identifier, by decide, rfl⟩
  | @literal value lexeme =>
      refine ⟨value.kind.kind, ?_, rfl⟩
      cases value.kind <;> decide
  | paren => exact ⟨.leftParen, by decide, rfl⟩
  | @bare type isType isBare ih =>
      obtain ⟨kind, -, lead⟩ := ih
      refine ⟨kind, ?_, lead⟩
      cases type with
      | arrayType length element => cases length <;> cases lead <;> decide
      | mapType key value => cases lead; decide
      | chanType direction element => cases direction <;> cases lead <;> decide
      | _ => cases isBare
  | selector _ _ _ ih => exact lead?_append ih
  | index _ _ ih _ =>
      rw [Expr.lead?, Expr.pieces_index, List.append_assoc]
      exact lead?_append ih
  | slice _ _ _ _ ih _ _ _ =>
      rw [Expr.lead?, Expr.pieces_slice]
      simp only [List.append_assoc]
      exact lead?_append ih
  | assertion _ _ _ ih _ =>
      rw [Expr.lead?, Expr.pieces_assertion, List.append_assoc]
      exact lead?_append ih
  | call _ _ ih _ =>
      rw [Expr.lead?, Expr.pieces_call]
      simp only [List.append_assoc]
      exact lead?_append ih
  | composite _ _ _ _ ih _ =>
      rw [Expr.lead?, Expr.pieces_composite, List.append_assoc]
      exact lead?_append ih
  | operand _ ih => exact lead_operand ih
  | star => exact ⟨.star, by decide, rfl⟩
  | @prefixed op => exact ⟨op.kind, by cases op <;> decide, rfl⟩
  | single _ ih => exact ih
  | joined _ _ _ ih _ => exact lead?_append ih
  | typeName => exact ⟨.identifier, by decide, rfl⟩
  | qualified => exact ⟨.identifier, by decide, rfl⟩
  | pointer => exact ⟨.star, by decide, rfl⟩
  | @array length => cases length <;> exact ⟨.leftBracket, by decide, rfl⟩
  | map | anyMap => exact ⟨.mapKw, by decide, rfl⟩
  | @chan direction =>
      cases direction with
      | both => exact ⟨.chanKw, by decide, rfl⟩
      | send => exact ⟨.chanKw, by decide, rfl⟩
      | receive => exact ⟨.arrow, by decide, rfl⟩
  | group => exact ⟨.leftParen, by decide, rfl⟩
  | plain _ _ ih => exact ih
  | channel _ _ ih => exact lead_operand ih
  | value _ ih => exact ih.imp fun _ found => ⟨List.mem_cons_of_mem _ found.1, found.2⟩
  | elided => exact ⟨.leftBrace, by decide, rfl⟩
  | entry _ ih => exact ih
  | pair _ _ ih _ => exact lead?_append ih

/-- A unary expression that begins with the word of a prefix operator applies it. -/
theorem isUnary_of_lead {op : UnaryOp} (shaped : Shaped .unary expr)
    (lead : expr.lead? = some op.kind) (noOperand : op.kind ∉ Form.operandLeads) :
    expr.isUnary op = true := by
  cases shaped with
  | operand primary =>
      obtain ⟨kind, listed, begins⟩ := primary.lead_mem
      rw [begins, Option.some.injEq] at lead
      exact absurd (lead ▸ listed) noOperand
  | star =>
      have begins : some Kind.star = some op.kind := lead
      cases op <;> cases begins
  | @prefixed other =>
      have begins : some other.kind = some op.kind := lead
      cases other <;> cases op <;> first | rfl | cases begins

end Shaped

/-! ## Legible trees -/

/-- The pieces can be written on at the pen, up to a word behind which whatever follows a tree
may stand; a dot, too, if the tree is read with what stands behind it and is no number. -/
def Runs (form : Form) (expr : Expr) (pen : Pen) (pieces : List Piece) : Prop :=
  ∃ last ∈ Form.numbers ++ Form.closers,
    (form.takesTail = true → expr.isNumeral = false → last ∈ Form.closers) ∧
      Legible pen pieces ⟨last, true⟩

/-- The layout of the tree can be written wherever its first word may stand. -/
def Writes (form : Form) (expr : Expr) : Prop :=
  ∀ pen : Pen, (pen.glued = true → ∀ kind ∈ expr.lead?, Joins pen.last kind) →
    Runs form expr pen expr.pieces

namespace Runs

variable {form other : Form} {expr inner : Expr} {pen pen' : Pen} {pieces pieces' : List Piece}

/-- A tree that ends with a closing word. -/
theorem closed (last : Kind) (closes : last ∈ Form.closers)
    (legible : Legible pen pieces ⟨last, true⟩) : Runs form expr pen pieces :=
  ⟨last, List.mem_append_right _ closes, fun _ _ => closes, legible⟩

/-- A tree that ends as one in it. -/
theorem inherit (runs : Runs form inner pen pieces)
    (tight : other.takesTail = true → form.takesTail = true)
    (legible : ∀ {final}, Legible pen pieces final → Legible pen' pieces' final)
    (number : inner.isNumeral = true → expr.isNumeral = true ∨ other.takesTail = false) :
    Runs other expr pen' pieces' := by
  obtain ⟨last, ends, closes, inside⟩ := runs
  refine ⟨last, ends, fun tail noNumber => closes (tight tail) ?_, legible inside⟩
  by_contra isNumber
  rcases number (by simpa using isNumber) with same | noTail
  · simp [same] at noNumber
  · simp [noTail] at tail

end Runs

namespace Piece.Legible

variable {pen final : Pen} {rest : List Piece} {left right : Kind}

theorem mark {kind : Kind} (isFixed : kind ∈ fixedKinds)
    (joins : pen.glued = true → Joins pen.last kind) (behind : Legible ⟨kind, true⟩ rest final) :
    Legible pen (.mark kind :: rest) final :=
  .word rfl (lexeme_spelling kind isFixed) joins behind

/-- Two words side by side of which the spellings tell that they do not fuse. -/
theorem beside (isFixed : right ∈ fixedKinds) (test : Token.apart left right = true)
    (behind : Legible ⟨right, true⟩ rest final) :
    Legible ⟨left, true⟩ (.mark right :: rest) final :=
  mark isFixed (fun _ => .of_apart test) behind

/-- Brackets with nothing between them. -/
theorem empty (opens : left ∈ Form.openers) (follows : right ∈ Form.followers)
    (behind : Legible ⟨right, true⟩ rest final) :
    Legible ⟨left, true⟩ (.mark right :: rest) final := by
  have tested : ∀ left ∈ Form.openers, ∀ right ∈ Form.followers,
      right ∈ fixedKinds ∧ Token.apart left right = true := by
    decide
  obtain ⟨isFixed, test⟩ := tested left opens right follows
  exact beside isFixed test behind

/-- A word behind a tree. -/
theorem follower (last : left ∈ Form.numbers ++ Form.closers) (follows : right ∈ Form.followers)
    (behind : Legible ⟨right, true⟩ rest final) :
    Legible ⟨left, true⟩ (.mark right :: rest) final := by
  have isFixed : ∀ kind ∈ Form.followers, kind ∈ fixedKinds := by decide
  exact mark (isFixed right follows) (fun _ => Form.joins_follower last follows) behind

/-- A dot behind a tree. -/
theorem dot (last : left ∈ Form.closers) (behind : Legible ⟨.dot, true⟩ rest final) :
    Legible ⟨left, true⟩ (.mark .dot :: rest) final :=
  mark (by decide) (fun _ => Form.joins_dot last) behind

end Piece.Legible

namespace Writes

variable {form : Form} {expr : Expr} {pen final : Pen} {rest : List Piece} {right : Kind}

/-- A tree at the front of the pieces. -/
theorem onto (writes : Writes form expr)
    (joins : pen.glued = true → ∀ kind ∈ Piece.lead? (expr.pieces ++ rest), Joins pen.last kind) :
    ∃ last ∈ Form.numbers ++ Form.closers,
      (form.takesTail = true → expr.isNumeral = false → last ∈ Form.closers) ∧
        ∀ {final}, Legible ⟨last, true⟩ rest final → Legible pen (expr.pieces ++ rest) final := by
  obtain ⟨last, ends, closes, legible⟩ := writes pen fun glued other isOther =>
    joins glued other (Piece.lead?_append isOther)
  exact ⟨last, ends, closes, legible.append⟩

/-- A tree behind an opening word. -/
theorem behindOpener (writes : Writes form expr) (pen : Pen)
    (lead : ∃ kind ∈ form.leads, expr.lead? = some kind)
    (opens : pen.glued = true → pen.last ∈ Form.openers) : Runs form expr pen expr.pieces := by
  obtain ⟨kind, listed, begins⟩ := lead
  refine writes pen fun glued other isOther => ?_
  rw [begins, Option.mem_some_iff] at isOther
  exact isOther ▸ Form.joins_opener (opens glued) listed

/-- A tree behind an opening word, with a word behind it. -/
theorem between (writes : Writes form expr) (lead : ∃ kind ∈ form.leads, expr.lead? = some kind)
    (opens : pen.glued = true → pen.last ∈ Form.openers) (follows : right ∈ Form.followers)
    (behind : Legible ⟨right, true⟩ rest final) :
    Legible pen (expr.pieces ++ .mark right :: rest) final := by
  obtain ⟨last, ends, -, legible⟩ := writes.behindOpener pen lead opens
  exact legible.append (.follower ends follows behind)

end Writes

namespace Piece.Legible

variable {form : Form} {elements : List Expr} {pen final : Pen} {rest : List Piece}
  {left right : Kind}

/-- A tree that may be left out, between two words. -/
theorem optional {expr : Option Expr} (writes : ∀ e ∈ expr, Writes form e)
    (leads : ∀ e ∈ expr, ∃ kind ∈ form.leads, e.lead? = some kind)
    (opens : left ∈ Form.openers) (follows : right ∈ Form.followers)
    (behind : Legible ⟨right, true⟩ rest final) :
    Legible ⟨left, true⟩ (Expr.piecesOf expr ++ .mark right :: rest) final := by
  cases expr with
  | none => exact empty opens follows behind
  | some expr => exact (writes expr rfl).between (leads expr rfl) (fun _ => opens) follows behind

/-- Further elements of a list. -/
theorem tail (writes : ∀ e ∈ elements, Writes form e) (ends : left ∈ Form.numbers ++ Form.closers)
    (follows : right ∈ Form.followers) (behind : Legible ⟨right, true⟩ rest final) :
    Legible ⟨left, true⟩ (Expr.tailPieces elements ++ .mark right :: rest) final := by
  induction elements generalizing left with
  | nil => exact follower ends follows behind
  | cons element elements ih =>
      obtain ⟨first, others⟩ := List.forall_mem_cons.1 writes
      obtain ⟨last, lastEnds, -, legible⟩ := first ⟨.comma, false⟩ nofun
      rw [Expr.tailPieces_cons, List.cons_append, List.cons_append, List.append_assoc]
      exact follower ends (by decide) (.blank (legible.append (ih others lastEnds)))

/-- The elements of a list between brackets. -/
theorem list (writes : ∀ e ∈ elements, Writes form e)
    (leads : ∀ e ∈ elements, ∃ kind ∈ form.leads, e.lead? = some kind)
    (opens : left ∈ Form.openers) (follows : right ∈ Form.followers)
    (behind : Legible ⟨right, true⟩ rest final) :
    Legible ⟨left, true⟩ (Expr.listPieces elements ++ .mark right :: rest) final := by
  cases elements with
  | nil => exact empty opens follows behind
  | cons element elements =>
      obtain ⟨first, others⟩ := List.forall_mem_cons.1 writes
      obtain ⟨last, ends, -, legible⟩ :=
        first.behindOpener ⟨left, true⟩ (leads element List.mem_cons_self) fun _ => opens
      rw [Expr.listPieces_cons, List.append_assoc]
      exact legible.append (tail others ends follows behind)

/-- Elements on lines of their own. -/
theorem lines (writes : ∀ e ∈ elements, Writes form e)
    (goesOn : pen.last.endsStatement = false)
    (behind : Legible ⟨.comma, true⟩ rest final) (filled : elements ≠ []) :
    Legible pen (Expr.linePieces elements ++ rest) final := by
  induction elements generalizing pen with
  | nil => exact absurd rfl filled
  | cons element elements ih =>
      obtain ⟨first, others⟩ := List.forall_mem_cons.1 writes
      obtain ⟨last, ends, -, legible⟩ := first ⟨pen.last, false⟩ nofun
      simp only [Expr.linePieces_cons, List.cons_append, List.append_assoc]
      refine .line goesOn (legible.append (follower ends (by decide) ?_))
      cases elements with
      | nil => exact behind
      | cons next elements => exact ih others rfl (List.cons_ne_nil _ _)

/-- The braces of a composite literal with what stands between them. -/
theorem braces {multiline : Bool} (writes : ∀ e ∈ elements, Writes form e)
    (leads : ∀ e ∈ elements, ∃ kind ∈ form.leads, e.lead? = some kind) :
    Legible ⟨.leftBrace, true⟩ (Expr.innerPieces elements multiline ++ [Piece.mark .rightBrace])
      ⟨.rightBrace, true⟩ := by
  unfold Expr.innerPieces
  split
  · rename_i broken
    rw [Bool.and_eq_true, Bool.not_eq_true'] at broken
    simp only [List.cons_append, List.append_assoc]
    refine .indent (lines writes rfl ?_ (by simpa using broken.2))
    exact .dedent (.line rfl (mark (by decide) nofun .nil))
  · exact list writes leads (by decide) (by decide) .nil

/-- The brackets in front of the type of the elements. -/
theorem size {length : ArrayLength} (writes : ∀ e, length = .fixed e → Writes form e)
    (leads : ∀ e, length = .fixed e → ∃ kind ∈ form.leads, e.lead? = some kind)
    (joins : pen.glued = true → Joins pen.last .leftBracket)
    (behind : Legible ⟨.rightBracket, true⟩ rest final) :
    Legible pen (length.pieces ++ rest) final := by
  cases length with
  | slice => exact mark (by decide) joins (empty (by decide) (by decide) behind)
  | inferred =>
      refine mark (by decide) joins (beside (by decide) (by decide +kernel) ?_)
      exact beside (by decide) (by decide +kernel) behind
  | fixed length =>
      rw [ArrayLength.pieces_fixed, List.append_assoc]
      refine mark (by decide) joins ?_
      exact (writes length rfl).between (leads length rfl) (fun _ => by decide) (by decide) behind

end Piece.Legible

/-- The last word that opens a channel type. -/
def ChanDirection.last : ChanDirection → Kind
  | .send => .arrow
  | _ => .chanKw

/-- The words that open a channel type, with a blank behind them. -/
theorem Piece.Legible.direction {direction : ChanDirection} {pen final : Pen} {rest : List Piece}
    (joins : pen.glued = true → ∀ kind ∈ Piece.lead? direction.pieces, Joins pen.last kind)
    (behind : Legible ⟨direction.last, false⟩ rest final) :
    Legible pen (direction.pieces ++ rest) final := by
  cases direction with
  | both => exact .mark (by decide) (joins · _ rfl) (.blank behind)
  | send | receive =>
      refine .mark (by decide) (joins · _ rfl) ?_
      exact .beside (by decide) (by decide +kernel) (.blank behind)

/-- What stands behind an operand ends with a closing word. -/
theorem Writes.suffixed {form : Form} {base expr : Expr} {suffix : List Piece}
    (writes : Writes .primary base) (split : expr.pieces = base.pieces ++ suffix) (last : Kind)
    (closes : last ∈ Form.closers)
    (behind : ∀ kind ∈ Form.numbers ++ Form.closers,
      (base.isNumeral = false → kind ∈ Form.closers) →
        Legible ⟨kind, true⟩ suffix ⟨last, true⟩) : Writes form expr := by
  intro pen joins
  rw [Expr.lead?, split] at joins
  obtain ⟨kind, ends, tight, legible⟩ := writes.onto joins
  rw [split]
  exact .closed last closes (legible (behind kind ends (tight rfl)))

/-- A tree in parentheses. -/
theorem Writes.enclosed {form inside : Form} {inner : Expr} (writes : Writes inside inner)
    (lead : ∃ kind ∈ inside.leads, inner.lead? = some kind) : Writes form (.paren inner) := by
  intro pen joins
  refine .closed .rightParen (by decide) (.mark (by decide) (joins · _ rfl) ?_)
  exact writes.between lead (fun _ => by decide) (by decide) .nil

namespace Shaped

variable {form : Form} {expr : Expr}

/-- A type is no number. -/
theorem not_isNumeral (shaped : Shaped .type expr) : expr.isNumeral = false := by
  cases shaped <;> rfl

/-- A prefix operator does not fuse with the operand that stands behind it without a blank. -/
theorem joins_prefix {op : UnaryOp} {operand : Expr} {kind : Kind} (unary : Shaped .unary operand)
    (apart : ¬(op.fuses && operand.isUnary op) = true)
    (noOperator : op = .address → operand.isUnary .xor = false)
    (lead : operand.lead? = some kind) : Joins op.kind kind := by
  obtain ⟨kind, listed, begins⟩ := unary.lead_mem
  obtain rfl : kind = _ := Option.some.inj (begins.symm.trans lead)
  refine Form.joins_prefix listed (fun keepsApart same => apart ?_) fun address same => ?_
  · rw [keepsApart, unary.isUnary_of_lead (same ▸ begins) ?_]
    · rfl
    · cases op <;> first | decide | cases keepsApart
  · have isXor : operand.isUnary .xor = true :=
      unary.isUnary_of_lead (begins.trans (same ▸ rfl)) (by decide)
    simp [noOperator address] at isXor

/-- The layout of a shaped tree is legible. -/
theorem writes (shaped : Shaped form expr) : Writes form expr := by
  induction shaped with
  | name lexeme =>
      exact fun pen joins => .closed .identifier (by decide)
        (.word rfl lexeme (joins · _ rfl) .nil)
  | @literal value lexeme =>
      intro pen joins
      refine ⟨value.kind.kind, ?_, fun _ => ?_, .word rfl lexeme (joins · _ rfl) .nil⟩
      · cases value.kind <;> decide
      · show (value.kind == .int || value.kind == .float || value.kind == .imaginary) = false → _
        cases value.kind <;> decide
  | paren inside ih => exact ih.enclosed inside.lead_mem
  | bare isType _ ih => exact fun pen joins => (ih pen joins).inherit id id .inl
  | @selector base name primary dot lexeme ih =>
      refine ih.suffixed (Expr.pieces_selector ..) .identifier (by decide) fun _ _ tight => ?_
      refine .dot (tight (base.not_isNumeral dot)) ?_
      exact .word rfl lexeme (fun _ => .of_apart (by decide +kernel)) .nil
  | index primary inside ih positionIh =>
      refine ih.suffixed ((Expr.pieces_index ..).trans (List.append_assoc ..)) .rightBracket
        (by decide) fun _ ends _ => .follower ends (by decide) ?_
      exact positionIh.between inside.lead_mem (fun _ => by decide) (by decide) .nil
  | @slice base low high max primary lower upper most ih lowIh highIh maxIh =>
      have leads : ∀ {bound : Option Expr}, (∀ e ∈ bound, Shaped (.binary 1) e) →
          ∀ e ∈ bound, ∃ kind ∈ (Form.binary 1).leads, e.lead? = some kind :=
        fun shaped e member => (shaped e member).lead_mem
      have split : (Expr.slice base low high max).pieces = base.pieces ++ .mark .leftBracket ::
          (Expr.piecesOf low ++ .mark .colon :: (Expr.piecesOf high ++
            (Expr.maxPieces max ++ [.mark .rightBracket]))) := by
        simp [Expr.pieces_slice]
      refine ih.suffixed split .rightBracket (by decide) fun _ ends _ =>
        .follower ends (by decide) (.optional lowIh (leads lower) (by decide) (by decide) ?_)
      cases max with
      | none => exact .optional highIh (leads upper) (by decide) (by decide) .nil
      | some max =>
          refine .optional highIh (leads upper) (by decide) (by decide) ?_
          exact (maxIh max rfl).between (most max rfl).lead_mem (fun _ => by decide) (by decide) .nil
  | @assertion base type primary dot asserted ih typeIh =>
      refine ih.suffixed ((Expr.pieces_assertion ..).trans (List.append_assoc ..)) .rightParen
        (by decide) fun _ _ tight => .dot (tight (base.not_isNumeral dot)) ?_
      refine .beside (by decide) (by decide +kernel) ?_
      cases type with
      | none =>
          refine .beside (by decide) (by decide +kernel) ?_
          exact .beside (by decide) (by decide +kernel) .nil
      | some type =>
          exact (typeIh type rfl).between (asserted type rfl).lead_mem (fun _ => by decide)
            (by decide) .nil
  | @call callee arguments primary inside ih argumentsIh =>
      have split : (Expr.call callee arguments false).pieces = callee.pieces ++ .mark .leftParen ::
          (Expr.listPieces arguments ++ [.mark .rightParen]) := by
        simp [Expr.pieces_call]
      refine ih.suffixed split .rightParen (by decide) fun _ ends _ =>
        .follower ends (by decide) ?_
      exact .list argumentsIh (fun e member => (inside e member).lead_mem) (by decide) (by decide)
        .nil
  | composite primary isType inside flagged ih elementsIh =>
      refine ih.suffixed ((Expr.pieces_composite ..).trans (List.append_assoc ..)) .rightBrace
        (by decide) fun _ ends _ => .follower ends (by decide) ?_
      exact .braces elementsIh fun e member => (inside e member).lead_mem
  | operand primary ih => exact fun pen joins => (ih pen joins).inherit nofun id fun _ => .inr rfl
  | star unary ih =>
      intro pen joins
      refine (ih.behindOpener ⟨.star, true⟩ unary.lead_mem fun _ => by decide).inherit nofun
        (.mark (by decide) (joins · _ rfl)) fun _ => .inr rfl
  | @prefixed op operand unary noChannel noOperator ih =>
      intro pen joins
      have isFixed : op.kind ∈ fixedKinds := by cases op <;> decide
      have written : ∀ {final}, Legible ⟨op.kind, true⟩
          ((if op.fuses && operand.isUnary op then [Piece.blank] else []) ++ operand.pieces) final →
            Legible pen (Expr.unary op operand).pieces final :=
        .mark isFixed (joins · _ rfl)
      by_cases fuses : (op.fuses && operand.isUnary op) = true
      · rw [if_pos fuses] at written
        exact (ih ⟨op.kind, false⟩ nofun).inherit nofun (fun inside => written (.blank inside))
          fun _ => .inr rfl
      · rw [if_neg fuses] at written
        exact (ih ⟨op.kind, true⟩ fun _ _ => unary.joins_prefix fuses noOperator).inherit nofun
          written fun _ => .inr rfl
  | single unary ih => exact fun pen joins => (ih pen joins).inherit nofun id fun _ => .inr rfl
  | @joined floor left right op _ before behind beforeIh behindIh =>
      intro pen joins
      obtain ⟨last, ends, -, legible⟩ := beforeIh.onto joins
      have isFixed : op.kind ∈ fixedKinds := by cases op <;> decide
      refine (behindIh ⟨op.kind, false⟩ nofun).inherit nofun (fun inside => ?_) fun _ => .inr rfl
      exact legible (.blank (.mark isFixed nofun (.blank inside)))
  | typeName lexeme =>
      exact fun pen joins => .closed .identifier (by decide)
        (.word rfl lexeme (joins · _ rfl) .nil)
  | qualified packageLexeme lexeme =>
      intro pen joins
      refine .closed .identifier (by decide) (.word rfl packageLexeme (joins · _ rfl) ?_)
      refine .dot (by decide) ?_
      exact .word rfl lexeme (fun _ => .of_apart (by decide +kernel)) .nil
  | pointer isType ih =>
      intro pen joins
      refine (ih.behindOpener ⟨.star, true⟩ isType.lead_mem fun _ => by decide).inherit id
        (.mark (by decide) (joins · _ rfl)) fun number => ?_
      simp [isType.not_isNumeral] at number
  | @array length element size isType sizeIh ih =>
      intro pen joins
      have runs := ih.behindOpener ⟨.rightBracket, true⟩ isType.lead_mem fun _ => by decide
      refine runs.inherit id (.size sizeIh (fun e isSize => (size e isSize).lead_mem) ?_)
        fun number => ?_
      · cases length <;> exact (joins · _ rfl)
      · simp [isType.not_isNumeral] at number
  | map keyType valueType keyIh valueIh =>
      intro pen joins
      have runs := valueIh.behindOpener ⟨.rightBracket, true⟩ valueType.lead_mem
        fun _ => by decide
      refine runs.inherit id (fun inside => ?_) fun number => ?_
      · refine .mark (by decide) (joins · _ rfl) (.beside (by decide) (by decide +kernel) ?_)
        exact keyIh.between keyType.lead_mem (fun _ => by decide) (by decide) inside
      · simp [valueType.not_isNumeral] at number
  | anyMap keyType keyIh =>
      intro pen joins
      refine .closed .rightBrace (by decide) ?_
      refine .mark (by decide) (joins · _ rfl) (.beside (by decide) (by decide +kernel) ?_)
      refine keyIh.between keyType.lead_mem (fun _ => by decide) (by decide) ?_
      refine .beside (by decide) (by decide +kernel) ?_
      refine .beside (by decide) (by decide +kernel) ?_
      exact .beside (by decide) (by decide +kernel) .nil
  | @chan direction element isType _ ih =>
      intro pen joins
      refine (ih ⟨direction.last, false⟩ nofun).inherit id (.direction ?_) fun number => ?_
      · cases direction <;> exact joins
      · simp [isType.not_isNumeral] at number
  | group isType ih => exact ih.enclosed isType.lead_mem
  | plain _ _ ih => exact ih
  | channel primary _ ih => exact fun pen joins => (ih pen joins).inherit nofun id fun _ => .inr rfl
  | value _ ih => exact ih
  | elided inside flagged ih =>
      intro pen joins
      refine .closed .rightBrace (by decide) ?_
      exact .mark (by decide) (joins · _ rfl) (.braces ih fun e member => (inside e member).lead_mem)
  | entry _ ih => exact ih
  | pair keyElement valueElement keyIh valueIh =>
      intro pen joins
      obtain ⟨last, ends, -, legible⟩ := keyIh.onto joins
      refine (valueIh ⟨.colon, false⟩ nofun).inherit nofun (fun inside => ?_) fun _ => .inr rfl
      exact legible (.follower ends (by decide) (.blank inside))

end Shaped

end GoMend
