import GoMend.Proofs.Comments.Expressions

/-!
# Comments in statements

A statement takes the comments before it and the one behind it on its line; a block and a
clause take those before their end.
-/

namespace GoMend

open GoMend.Parser
open ParserState (places_advance places_setLevel)

namespace Grammar

/-- The comments in a statement that may be left out. -/
def stmtRemarks (stmt : Option Stmt) : List Comment :=
  stmt.elim [] Stmt.remarks

/-- The comments in a simple statement or range clause. -/
def LoopClause.remarks : LoopClause → List Comment
  | .simple stmt => stmt.remarks
  | .range key value _ subject =>
      key.elim [] (·.remarks ++ value.elim [] Expr.remarks) ++ subject.remarks

/-- The comments in the header of a loop. -/
def LoopHeader.remarks : LoopHeader → List Comment
  | .range key value _ subject =>
      key.elim [] (·.remarks ++ value.elim [] Expr.remarks) ++ subject.remarks
  | .clauses init condition post =>
      stmtRemarks init ++ condition.elim [] Expr.remarks ++ stmtRemarks post

/-- A switch holds the comments of its header and of its clauses. -/
theorem switchOf?_remarks {init : Option Stmt} {clauses : List CaseClause}
    {tag : Option StmtKind} {kind : StmtKind} (found : switchOf? init clauses tag = some kind) :
    kind.remarks =
      stmtRemarks init ++ tag.elim [] StmtKind.remarks ++ CaseClause.remarksAll clauses := by
  cases switches_of_switchOf? found with
  | bare | value | guard | binding => simp [stmtRemarks]

variable {below : Reader} {state : ParserState}

/-- A simple statement keeps the comments of the expressions read before it. -/
theorem simpleFrom_places (keeps : below.PlacesComments) {now : ParserState} {first : Expr}
    {others : List Expr} (placed : state.Places (Expr.remarksAll (first :: others)) now) :
    (simpleFrom below first others).Ensures now fun kind final =>
      state.Places kind.remarks final := by
  unfold simpleFrom
  simp only [ends_bind, ends_peek]
  split
  case h_1 op found =>
    simp
    refine (exprList_places keeps).weaken fun values final valuesPlaced => ?_
    exact (placed.trans (places_advance.1 valuesPlaced)).relist (by simp)
  case h_2 =>
    simp only [ends_ite]
    refine ⟨fun _ => by simp, fun alone => ?_⟩
    have firstPlaced : state.Places first.remarks now := by
      have noOthers : others = [] := by simpa using alone
      exact placed.relist (by simp [noOthers])
    split
    case h_1 =>
      simp
      exact (expr_places keeps).weaken fun value final valuePlaced =>
        firstPlaced.trans (places_advance.1 valuePlaced)
    case h_2 => simpa using firstPlaced
    case h_3 => simpa using firstPlaced
    case h_4 => simpa using firstPlaced

theorem simple_places (keeps : below.PlacesComments) :
    (simple below).Ensures state fun kind final => state.Places kind.remarks final := by
  simp [simple]
  refine (expr_places keeps).weaken fun first middle firstPlaced => ?_
  refine (keeps.places .exprTail rfl).weaken fun others final othersPlaced => ?_
  exact simpleFrom_places keeps (firstPlaced.trans othersPlaced)

theorem loopClause_places (keeps : below.PlacesComments) :
    (loopClause below).Ensures state fun clause final => state.Places clause.remarks final := by
  simp [loopClause]
  refine ⟨fun _ => ?_, fun _ => ?_⟩
  · exact (expr_places keeps).weaken fun subject final placed => places_advance.1 placed
  refine (expr_places keeps).weaken fun first middle firstPlaced => ?_
  refine (keeps.places .exprTail rfl).weaken fun others now othersPlaced => ?_
  refine ⟨fun _ _ few => ?_, fun _ => simpleFrom_places keeps (firstPlaced.trans othersPlaced)⟩
  have headAlone : Expr.remarksAll others = others.head?.elim [] Expr.remarks := by
    rcases others with _ | ⟨second, _ | ⟨third, more⟩⟩
    · rfl
    · simp
    · simp at few
  refine (expr_places keeps).weaken fun subject final subjectPlaced => ?_
  refine ((firstPlaced.trans othersPlaced).trans
    (places_advance.1 (places_advance.1 subjectPlaced))).relist ?_
  simp [LoopClause.remarks, Production.remarks, headAlone]

theorem block_places (keeps : below.PlacesComments) :
    (block below).Ensures state fun body final => state.Places body.remarks final := by
  simp [block, -ends_takeDoc]
  intro _
  refine (keeps.places .stmts rfl).weaken fun stmts middle placed => ?_
  refine takeDoc_places.weaken fun closing final closingPlaced _ => ?_
  exact (places_advance.1 placed).trans closingPlaced

theorem stmts_places (keeps : below.PlacesComments) :
    (stmts below).Ensures state fun body final => state.Places (Stmt.remarksAll body) final := by
  simp [stmts, -ends_takeDoc]
  intro _ _ _ _
  refine ⟨fun _ => ?_, fun _ => ?_⟩
  · exact (keeps.places .stmts rfl).weaken fun body final placed => places_advance.1 placed
  refine takeDoc_places.weaken fun doc afterDoc docPlaced => ?_
  refine (keeps.places .stmt rfl).weaken fun kind afterKind kindPlaced => ?_
  refine takeTrailing_places.weaken fun comment afterComment commentPlaced => ?_
  have onward : ∀ now : ParserState, afterComment.Places [] now →
      (below .stmts).Ensures now fun others final =>
        state.Places (doc ++ StmtKind.remarks kind ++ comment.toList ++
          Stmt.remarksAll others) final := by
    intro now ended
    refine (keeps.places .stmts rfl).weaken fun others final othersPlaced => ?_
    refine (((docPlaced.trans kindPlaced).trans commentPlaced).trans
      (ended.trans othersPlaced)).relist ?_
    simp [Production.remarks]
  refine ⟨fun _ _ => ?_, fun _ => by simpa using onward afterComment .refl⟩
  refine expectSemicolon_places.weaken fun _ afterEnd endPlaced => ?_
  simpa using onward afterEnd endPlaced

theorem conditionalHeader_places (keeps : below.PlacesComments) (saved : Int) :
    (conditionalHeader below saved).Ensures state fun head final =>
      state.Places (stmtRemarks head.1 ++ head.2.remarks) final := by
  simp [conditionalHeader]
  refine (simple_places keeps).weaken fun first middle firstPlaced => ?_
  refine ⟨fun _ => ?_, fun _ => ?_⟩
  · refine (expr_places keeps).weaken fun condition final placed => ?_
    exact (firstPlaced.trans (places_advance.1 placed)).relist (by simp [stmtRemarks])
  · split
    · exact firstPlaced
    · simp

theorem alternative_places (keeps : below.PlacesComments) :
    (alternative below).Ensures state fun alternative final =>
      state.Places (alternative.elim [] (·.kind.remarks)) final := by
  simp [alternative]
  intro _
  split
  · simp
    exact (keeps.places .conditional rfl).weaken fun kind final placed => places_advance.1 placed
  · simp
    exact (keeps.places .block rfl).weaken fun body final placed => places_advance.1 placed
  · simp

theorem conditional_places (keeps : below.PlacesComments) :
    (conditional below).Ensures state fun kind final => state.Places kind.remarks final := by
  simp [conditional]
  intro _
  refine (conditionalHeader_places keeps _).weaken fun head middle headPlaced => ?_
  refine (keeps.places .block rfl).weaken fun body now bodyPlaced => ?_
  refine (alternative_places keeps).weaken fun alternative final placed => ?_
  have headPlaced : state.Places (stmtRemarks head.1 ++ head.2.remarks) middle := by
    simpa using headPlaced
  refine (headPlaced.trans ((places_setLevel.1 bodyPlaced).trans placed)).relist ?_
  simp [stmtRemarks, Production.remarks]

theorem switchHeader_places (keeps : below.PlacesComments) :
    (switchHeader below).Ensures state fun head final =>
      state.Places (stmtRemarks head.1 ++ head.2.elim [] StmtKind.remarks) final := by
  simp [switchHeader]
  refine ⟨fun _ => .refl, fun _ => ⟨fun semicolon => ⟨fun _ => ⟨fun _ => ?_, fun _ => ?_⟩,
    fun none => absurd semicolon none⟩, fun _ => ?_⟩⟩
  · simp [stmtRemarks]
  · exact (simple_places keeps).weaken fun tag final placed => places_advance.1 placed
  refine (simple_places keeps).weaken fun first middle firstPlaced => ?_
  refine ⟨fun _ => ⟨fun _ => by simpa [stmtRemarks] using firstPlaced, fun _ => ?_⟩,
    fun _ => firstPlaced⟩
  refine (simple_places keeps).weaken fun tag final placed => ?_
  exact (firstPlaced.trans (places_advance.1 placed)).relist (by simp [stmtRemarks])

theorem switch_places (keeps : below.PlacesComments) :
    (switch below).Ensures state fun kind final => state.Places kind.remarks final := by
  simp [switch]
  intro _
  refine (switchHeader_places keeps).weaken fun head middle headPlaced _ => ?_
  refine (keeps.places .caseClauses rfl).weaken fun clauses now clausesPlaced _ => ?_
  split
  case h_1 kind found =>
    simp
    exact ((places_advance.1 (places_setLevel.1 headPlaced)).trans
      (places_advance.1 (places_setLevel.1 clausesPlaced))).relist
        (switchOf?_remarks found).symm
  case h_2 => simp

theorem caseClauses_places (keeps : below.PlacesComments) :
    (caseClauses below).Ensures state fun clauses final =>
      state.Places (CaseClause.remarksAll clauses) final := by
  simp [caseClauses, -ends_takeDoc]
  refine ⟨fun _ => ?_, fun _ _ => .refl⟩
  refine takeDoc_places.weaken fun doc afterDoc docPlaced => ?_
  have onward : ∀ (list : Option (List Expr)) (now : ParserState),
      state.Places (doc ++ list.elim [] Expr.remarksAll) now →
      (below .stmts).Ensures now fun body middle =>
        (below .caseClauses).Ensures middle fun others final =>
          state.Places (CaseClause.remarksAll (⟨doc, list, body⟩ :: others)) final := by
    intro list now placed
    refine (keeps.places .stmts rfl).weaken fun body middle bodyPlaced => ?_
    refine (keeps.places .caseClauses rfl).weaken fun others final othersPlaced => ?_
    refine (placed.trans (bodyPlaced.trans othersPlaced)).relist ?_
    simp [CaseClause.remarksAll, Production.remarks]
  refine ⟨fun _ => ?_, fun _ _ => onward none _ (by simpa using docPlaced)⟩
  refine (exprList_places keeps).weaken fun list middle placed _ => ?_
  refine onward (some list) _ ?_
  simpa using docPlaced.trans (places_advance.1 placed)

theorem select_places (keeps : below.PlacesComments) :
    (select below).Ensures state fun kind final => state.Places kind.remarks final := by
  simp [select]
  intro _ _
  refine (keeps.places .commClauses rfl).weaken fun clauses middle placed _ => ?_
  simpa [Production.remarks] using placed

theorem commClauses_places (keeps : below.PlacesComments) :
    (commClauses below).Ensures state fun clauses final =>
      state.Places (CommClause.remarksAll clauses) final := by
  simp [commClauses, -ends_takeDoc]
  refine ⟨fun _ => ?_, fun _ _ => .refl⟩
  refine takeDoc_places.weaken fun doc afterDoc docPlaced => ?_
  have onward : ∀ (comm : Option Stmt) (now : ParserState),
      state.Places (doc ++ comm.elim [] Stmt.remarks) now →
      (below .stmts).Ensures now fun body middle =>
        (below .commClauses).Ensures middle fun others final =>
          state.Places (CommClause.remarksAll (⟨doc, comm, body⟩ :: others)) final := by
    intro comm now placed
    refine (keeps.places .stmts rfl).weaken fun body middle bodyPlaced => ?_
    refine (keeps.places .commClauses rfl).weaken fun others final othersPlaced => ?_
    refine (placed.trans (bodyPlaced.trans othersPlaced)).relist ?_
    simp [CommClause.remarksAll, Production.remarks]
  refine ⟨fun _ => ?_, fun _ _ => onward none _ (by simpa using docPlaced)⟩
  refine (simple_places keeps).weaken fun comm middle placed _ => ?_
  refine onward (some (.bare comm)) _ ?_
  simpa using docPlaced.trans (places_advance.1 placed)

theorem loopClauses_places (keeps : below.PlacesComments) (init : Option Stmt) :
    (loopClauses below init).Ensures state fun head final =>
      ∃ placed, head.remarks = stmtRemarks init ++ placed ∧ state.Places placed final := by
  simp [loopClauses]
  have ended : ∀ (condition : Option Expr) (now : ParserState),
      state.Places (condition.elim [] Expr.remarks) now →
      (now.advance.kind = .leftBrace →
        ∃ placed, (LoopHeader.clauses init condition none).remarks = stmtRemarks init ++ placed ∧
          state.Places placed now) ∧
      (¬now.advance.kind = .leftBrace →
        (simple below).Ensures now.advance fun post final =>
          ∃ placed, (LoopHeader.clauses init condition (some (.bare post))).remarks =
              stmtRemarks init ++ placed ∧
            state.Places placed final) := by
    intro condition now placed
    refine ⟨fun _ => ⟨_, by simp [LoopHeader.remarks, stmtRemarks], placed⟩, fun _ => ?_⟩
    refine (simple_places keeps).weaken fun post final postPlaced => ?_
    exact ⟨_, by simp [LoopHeader.remarks, stmtRemarks],
      placed.trans (places_advance.1 postPlaced)⟩
  refine ⟨fun _ => ended none state .refl, fun _ => ?_⟩
  exact (expr_places keeps).weaken fun condition middle placed _ =>
    ended (some condition) middle placed

theorem loopHeader_places (keeps : below.PlacesComments) (saved : Int) :
    (loopHeader below saved).Ensures state fun head final => state.Places head.remarks final := by
  simp [loopHeader]
  refine ⟨fun _ => .refl, fun _ => ⟨fun _ => ?_, fun _ => ?_⟩⟩
  · refine (loopClauses_places keeps none).weaken ?_
    rintro head final ⟨placed, same, places⟩
    exact (places_advance.1 places).relist (by simp [same, stmtRemarks])
  refine (loopClause_places keeps).weaken fun clause middle placed => ?_
  cases clause with
  | range key value define subject => exact placed
  | simple first =>
      simp
      refine ⟨fun _ => ?_, fun _ => ?_⟩
      · refine (loopClauses_places keeps (some (.bare first))).weaken ?_
        rintro head final ⟨more, same, places⟩
        refine (placed.trans (places_advance.1 places)).relist ?_
        simp [same, stmtRemarks, LoopClause.remarks]
      · split
        · exact placed.relist (by simp [LoopClause.remarks, LoopHeader.remarks, stmtRemarks])
        · simp

theorem loop_places (keeps : below.PlacesComments) :
    (loop below).Ensures state fun kind final => state.Places kind.remarks final := by
  simp [loop]
  intro _
  refine (loopHeader_places keeps _).weaken fun head middle headPlaced => ?_
  have headPlaced : state.Places head.remarks middle := by simpa using headPlaced
  cases head with
  | range key value define subject =>
      simp
      refine (keeps.places .block rfl).weaken fun body final bodyPlaced => ?_
      refine (headPlaced.trans (places_setLevel.1 bodyPlaced)).relist ?_
      simp [LoopHeader.remarks, Production.remarks]
  | clauses init condition post =>
      simp
      refine (keeps.places .block rfl).weaken fun body final bodyPlaced => ?_
      refine (headPlaced.trans (places_setLevel.1 bodyPlaced)).relist ?_
      simp [LoopHeader.remarks, stmtRemarks, Production.remarks]

end Grammar

end GoMend
