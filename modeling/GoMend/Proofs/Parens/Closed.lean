import GoMend.Proofs.Parens.Carried

/-!
# Productions before a closing parenthesis

A production that may stand at the end of an expression reads the same before a closing
parenthesis as at the end of a text.
-/

namespace GoMend

open GoMend.Parser

/-- Whether the production may stand at the end of an expression. -/
def Production.isLast : Production → Bool
  | .binary _ | .binaryTail _ _ | .unary | .primaryTail _ | .type | .block => true
  | _ => false

namespace Grammar

variable {more : Closing}

theorem closes_typeName : Closes more typeName typeName := by
  unfold typeName
  exact .bind closes_ident fun name => (closes_eat (by decide)).bind fun dotted =>
    .ite (closes_ident.bind fun member => .pure _) (.pure _)

theorem closes_memberList {members members' : Parser (List Field)} [Carries more members members'] :
    Closes more (memberList members) (memberList members') := by
  unfold memberList
  refine (closes_expect (by decide)).bind fun _ => .before (fun fields => ?_) fun fields => ?_
  · exact .takeDoc fun closing => (starves_expect (by decide)).bind
  · exact opens_takeDoc.bind fun closing => (closes_expect (by decide)).bind fun _ => .pure _

section

variable {below below' : Reader}
  [∀ production, Carries more (below production) (below' production)]

theorem closes_parameters : Closes more (parameters below) (parameters below') := by
  unfold parameters
  refine (closes_expect (by decide)).bind fun _ => .restored (fun _ _ => inferInstance)
    (fun entries => ?_) fun entries => ?_
  · exact (starves_expect (by decide)).bind
  · refine opens_expect.bind fun close => ?_
    split
    · exact .pure _
    · exact .of_fails fun _ => trivial

theorem closes_block : Closes more (block below) (block below') := by
  unfold block
  refine (closes_expect (by decide)).bind fun _ => .before (fun stmts => ?_) fun stmts => ?_
  · exact .takeDoc fun closing => (starves_expect (by decide)).bind
  · exact opens_takeDoc.bind fun closing => (closes_expect (by decide)).bind fun _ => .pure _

theorem closes_compositeBody (type : Option Expr) :
    Closes more (compositeBody below type) (compositeBody below' type) := by
  unfold compositeBody
  refine (closes_expect (by decide)).bind fun opening => .before (fun elements => ?_)
    fun elements => ?_
  · exact (starves_expect (by decide)).bind
  · refine opens_expect.bind fun close => .get fun state state' continues => ?_
    rw [continues.lines]
    exact .pure _

variable (closes : ∀ production : Production, production.isLast = true →
  Closes more (below production) (below' production))

include closes

theorem closes_results : Closes more (results below) (results below') := by
  unfold results
  refine (closes_at? (by decide)).bind fun listed => .ite
    (closes_parameters.bind fun _ => .pure _) (Closes.peek (fun kind => ?_) rfl ?_)
  · exact .ite (closes .type rfl |>.bind fun _ => .pure _).opens (.pure _)
  · simp [startsType]

theorem closes_signature : Closes more (signature below) (signature below') := by
  unfold signature
  exact .bind closes_parameters fun params => .bind (closes_results closes) fun _ => .pure _

variable [∀ production, Steady (below production)] [∀ production, Steady (below' production)]

omit closes in
theorem closes_arrayLength : Closes more (arrayLength below) (arrayLength below') := by
  unfold arrayLength
  refine (closes_expect (by decide)).bind fun _ => (closes_eat (by decide)).bind fun isSlice =>
    .ite (.pure _) ((closes_eat (by decide)).bind fun isInferred => .ite ?_ ?_)
  · exact (closes_expect (by decide)).bind fun _ => .pure _
  · refine .outcome (by simp) (Closes.before (fun size => ?_) fun size => ?_)
    · exact (starves_expect (by decide)).bind
    · exact opens_expect.bind fun _ => .pure _

theorem closes_type : Closes more (Grammar.type below) (Grammar.type below') := by
  have type := closes .type rfl
  refine .of_opens (.peek fun kind => ?_) (.peek fun _ _ => trivial)
  split
  · exact closes_typeName.opens
  · exact opens_bump.bind fun _ => type.bind fun _ => .pure _
  · exact (Closes.bind closes_arrayLength fun _ => type.bind fun _ => .pure _).opens
  · exact opens_bump.bind fun _ => (closes_expect (by decide)).bind fun _ => type.bind fun key =>
      (closes_expect (by decide)).bind fun _ => type.bind fun _ => .pure _
  · exact opens_bump.bind fun _ => (closes_eat (by decide)).bind fun _ => type.bind fun _ =>
      .pure _
  · exact opens_bump.bind fun _ => (closes_expect (by decide)).bind fun _ => type.bind fun _ =>
      .pure _
  · exact opens_bump.bind fun _ => (closes_signature closes).bind fun _ => .pure _
  · exact opens_bump.bind fun _ => closes_memberList.bind fun _ => .pure _
  · exact opens_bump.bind fun _ => closes_memberList.bind fun _ => .pure _
  · exact opens_bump.bind fun _ => type.bind fun inner => (closes_expect (by decide)).bind
      fun _ => .pure _
  · exact .of_fails fun _ => trivial

omit [∀ production, Carries more (below production) (below' production)]
  [∀ production, Steady (below production)] [∀ production, Steady (below' production)] in
theorem closes_binary (floor : Nat) : Closes more (binary below floor) (binary below' floor) :=
  (closes .unary rfl).bind fun left => closes (.binaryTail floor left) rfl

omit [∀ production, Carries more (below production) (below' production)]
  [∀ production, Steady (below production)] [∀ production, Steady (below' production)] in
theorem closes_binaryTail (floor : Nat) (left : Expr) :
    Closes more (binaryTail below floor left) (binaryTail below' floor left) := by
  refine .peek (fun kind => ?_) rfl (by simp [BinaryOp.ofKind?])
  split
  · exact .ite (.pure _) (opens_bump.bind fun _ => (closes (.binary _) rfl).bind fun right =>
      closes (.binaryTail floor _) rfl)
  · exact .pure _

theorem closes_operand : Closes more (operand below) (operand below') := by
  have type := closes .type rfl
  refine .of_opens (.peek fun kind => ?_) (.peek fun _ _ => trivial)
  split
  · exact (closes_ident.bind fun _ => .pure _).opens
  · refine opens_bump.bind fun _ => .before (fun inner => ?_) fun inner => ?_
    · exact (starves_expect (by decide)).bind
    · exact opens_expect.bind fun _ => .pure _
  · exact opens_bump.bind fun _ => (closes_signature closes).bind fun signature =>
      (closes_at? (by decide)).bind fun hasBody => .ite
        ((closes .block rfl).fresh.bind fun _ => .pure _) (.pure _)
  · exact type.opens
  · exact type.opens
  · exact type.opens
  · exact type.opens
  · exact type.opens
  · split
    · exact opens_bump.bind fun _ => .pure _
    · exact .of_fails fun _ => trivial

theorem closes_unary : Closes more (unary below) (unary below') := by
  have tail := fun operand => closes (.primaryTail operand) rfl
  refine .of_opens (.peek fun kind => .ite ?_ ?_) (.peek fun state nothing => ?_)
  · exact opens_bump.bind fun _ => (closes .unary rfl).bind fun _ => .pure _
  · refine Opens.peekSecond (fun second => .ite ?_ ?_) (by simp)
    · exact ((closes .type rfl).bind tail).opens
    · split
      · exact opens_bump.bind fun _ => (closes .unary rfl).bind fun _ => .pure _
      · exact ((closes_operand closes).bind tail).opens
  · simp [UnaryOp.ofKind?, operand, LiteralKind.ofKind?, ParserState.kind_of_nil nothing]

omit [∀ production, Carries more (below production) (below' production)]
  [∀ production, Steady (below production)] [∀ production, Steady (below' production)] in
theorem closes_selectorOrAssertion (base : Expr) :
    Closes more (selectorOrAssertion below base) (selectorOrAssertion below' base) := by
  unfold selectorOrAssertion
  refine (closes_expect (by decide)).bind fun _ => (closes_at? (by decide)).bind fun selected =>
    .ite (closes_ident.bind fun _ => .pure _) ((closes_expect (by decide)).bind fun _ =>
      (closes_eat (by decide)).bind fun guarded => .ite ?_ ?_)
  · exact (closes_expect (by decide)).bind fun _ => .pure _
  · exact (closes .type rfl).bind fun type => (closes_expect (by decide)).bind fun _ => .pure _

theorem closes_primaryTail (operand : Expr) :
    Closes more (primaryTail below operand) (primaryTail below' operand) := by
  have tail := fun operand => closes (.primaryTail operand) rfl
  refine .peek (fun kind => ?_) rfl (by simp)
  split
  · exact ((closes_selectorOrAssertion closes operand).bind tail).opens
  · refine opens_bump.bind fun _ => .before (fun next => ?_) fun next => ?_
    · exact (starves_expect (by decide)).bind
    · exact opens_expect.bind fun _ => tail next
  · refine opens_bump.bind fun _ => .before (fun read => ?_) fun read => ?_
    · exact (starves_expect (by decide)).bind
    · exact opens_expect.bind fun _ => tail _
  · refine .get fun state state' continues => ?_
    rw [decide_eq_decide.2 continues.free_iff]
    exact .ite ((closes_compositeBody _).bind tail).opens (.pure _)
  · exact .pure _

end

end Grammar

namespace Production

variable {more : Closing}

/-- At the end of an expression a reader stops before a closing parenthesis as at the end of a
text, and so does any reader whose bound is as large. -/
theorem read_closes {bound bound' : Nat} (deeper : bound ≤ bound') (production : Production)
    (last : production.isLast = true) :
    Closes more (read bound production) (read bound' production) := by
  induction bound generalizing bound' production with
  | zero => exact .of_fails fun _ => trivial
  | succ bound ih =>
      obtain ⟨further, rfl⟩ := Nat.exists_eq_add_of_lt deeper
      have within : bound ≤ bound + further := Nat.le_add_right _ _
      have (production : Production) :
          Carries more (read bound production) (read (bound + further) production) :=
        read_carries within production
      have closes := ih within
      cases production with
      | binary floor => exact Grammar.closes_binary closes floor
      | binaryTail floor left => exact Grammar.closes_binaryTail closes floor left
      | unary => exact Grammar.closes_unary closes
      | primaryTail operand => exact Grammar.closes_primaryTail closes operand
      | type => exact Grammar.closes_type closes
      | block => exact Grammar.closes_block
      | _ => cases last

end Production

end GoMend
