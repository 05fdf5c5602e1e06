import GoMend.Proofs.Comments.Layout
import GoMend.Proofs.Grammar.Outcome

/-!
# Comments placed by a production

The comments of a text wait beside its words until a production takes them.  `Places`
relates the comments that wait before a step to those that wait after it by the comments
that were placed meanwhile; steps compose by appending these.  A production conserves
comments if it has placed exactly those that its result is written with.
-/

namespace GoMend

namespace ParserState

/-- Between two states exactly the given comments were placed. -/
def Places (state : ParserState) (placed : List Comment) (final : ParserState) : Prop :=
  state.comments.map Parser.toComment = placed ++ final.comments.map Parser.toComment

variable {state middle final : ParserState} {placed more : List Comment}

@[simp] theorem comments_advance : state.advance.comments = state.comments := by
  unfold advance
  split <;> rfl

@[simp] theorem places_advance : state.advance.Places placed final ↔ state.Places placed final := by
  rw [Places, comments_advance, Places]

@[simp] theorem places_advance_final :
    state.Places placed final.advance ↔ state.Places placed final := by
  rw [Places, comments_advance, Places]

@[simp] theorem places_setLevel {level : Int} :
    (state.setLevel level).Places placed final ↔ state.Places placed final :=
  Iff.rfl

@[simp] theorem places_setLevel_final {level : Int} :
    state.Places placed (final.setLevel level) ↔ state.Places placed final :=
  Iff.rfl

namespace Places

@[simp] theorem refl : state.Places [] state := rfl

theorem trans (first : state.Places placed middle) (second : middle.Places more final) :
    state.Places (placed ++ more) final := by
  rw [Places, first, second, List.append_assoc]

/-- The comments that were placed may be listed in any form. -/
theorem relist (places : state.Places placed final) (same : placed = more) :
    state.Places more final :=
  same ▸ places

end Places

end ParserState

namespace Parser

variable {state : ParserState}

theorem takeDoc_places : takeDoc.Ensures state fun doc final => state.Places doc final := by
  simp [ParserState.Places, ParserState.setComments, ← List.map_append]

theorem takeTrailing_places :
    takeTrailing.Ensures state fun comment final => state.Places comment.toList final := by
  unfold Ensures Ends takeTrailing
  split
  · rename_i found
    split at found
    · cases found
      exact .refl
    · rename_i comment rest waiting
      split at found <;> cases found
      · simp [ParserState.Places, waiting]
      · exact .refl
  · trivial

theorem takeRemaining_places :
    takeRemaining.Ensures state fun comments final =>
      state.Places comments final ∧ final.comments = [] := by
  simp [ParserState.Places, ParserState.setComments]

theorem expectSemicolon_places :
    expectSemicolon.Ensures state fun _ final => state.Places [] final := by
  simp [expectSemicolon]

end Parser

namespace Production

/-- The comments in what was read before the production began. -/
def heldRemarks : Production → List Comment
  | .binaryTail _ left => left.remarks
  | .primaryTail operand => operand.remarks
  | _ => []

/-- The comments in the entries of a parameter list. -/
def entryRemarks (entries : List (Expr × Option Expr)) : List Comment :=
  entries.flatMap fun entry => entry.1.remarks ++ entry.2.elim [] Expr.remarks

/-- The comments that the result of a production is written with. -/
def remarks : (production : Production) → production.Result → List Comment
  | .binary _, (expr : Expr) => expr.remarks
  | .binaryTail _ _, (expr : Expr) => expr.remarks
  | .unary, (expr : Expr) => expr.remarks
  | .primaryTail _, (expr : Expr) => expr.remarks
  | .exprTail, exprs => Expr.remarksAll exprs
  | .arguments, (exprs, _) => Expr.remarksAll exprs
  | .elements, exprs => Expr.remarksAll exprs
  | .element, (expr : Expr) => expr.remarks
  | .type, (expr : Expr) => expr.remarks
  | .params, entries => entryRemarks entries
  | .structFields, fields => Field.remarksAll fields
  | .interfaceMembers, fields => Field.remarksAll fields
  | .block, (body : Block) => body.remarks
  | .stmts, (body : List Stmt) => Stmt.remarksAll body
  | .stmt, (kind : StmtKind) => kind.remarks
  | .conditional, (kind : StmtKind) => kind.remarks
  | .caseClauses, clauses => CaseClause.remarksAll clauses
  | .commClauses, clauses => CommClause.remarksAll clauses
  | .identTail, _ => []
  | .specs _, entries => Spec.remarksAll entries
  | .imports, (list : List Decl) => Decl.remarksAll list
  | .decls, (list : List Decl) => Decl.remarksAll list

/-- The production has placed the comments that its result is written with, apart from
those that it was handed. -/
def Places (production : Production) (state : ParserState) (result : production.Result)
    (final : ParserState) : Prop :=
  ∃ placed, production.remarks result = production.heldRemarks ++ placed ∧
    state.Places placed final

end Production

/-- A reader whose productions all conserve comments. -/
def Reader.PlacesComments (below : Reader) : Prop :=
  ∀ production state, (below production).Ensures state (production.Places state)

/-- A production that is handed nothing places the comments of its result. -/
theorem Reader.PlacesComments.places {below : Reader} (keeps : below.PlacesComments)
    {state : ParserState} (production : Production)
    (nothingHeld : production.heldRemarks = []) :
    (below production).Ensures state fun result final =>
      state.Places (production.remarks result) final := by
  refine (keeps production state).weaken ?_
  rintro result final ⟨placed, same, places⟩
  rw [nothingHeld, List.nil_append] at same
  exact same ▸ places

end GoMend
