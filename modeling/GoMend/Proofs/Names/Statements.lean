import GoMend.Proofs.Names.Expressions

/-!
# Names in statements
-/

namespace GoMend

open Lexed (Reads)
open ParserState (kind_advance reads_skip reads_ident)
open GoMend.Parser

namespace Grammar

/-- The names in an optional statement. -/
def stmtIdents (stmt : Option Stmt) : List Ident :=
  Stmt.identsAll stmt.toList

/-- The names in a simple statement or range clause. -/
def LoopClause.idents : LoopClause → List Ident
  | .simple stmt => stmt.idents
  | .range key value _ subject =>
      Expr.identsAll key.toList ++ Expr.identsAll value.toList ++ subject.idents

/-- The names in the header of a loop. -/
def LoopHeader.idents : LoopHeader → List Ident
  | .range key value _ subject =>
      Expr.identsAll key.toList ++ Expr.identsAll value.toList ++ subject.idents
  | .clauses init condition post =>
      stmtIdents init ++ Expr.identsAll condition.toList ++ stmtIdents post

/-- A switch holds the names of its header and of its clauses. -/
theorem switchOf?_idents {init : Option Stmt} {clauses : List CaseClause}
    {tag : Option StmtKind} {kind : StmtKind} (found : switchOf? init clauses tag = some kind) :
    kind.idents = stmtIdents init ++ tag.elim [] (·.idents) ++ CaseClause.identsAll clauses := by
  cases switches_of_switchOf? found with
  | bare => cases init <;> simp [StmtKind.collect_switch, stmtIdents, Stmt.collectAll]
  | value tag =>
      cases init <;> simp [StmtKind.collect_switch, StmtKind.collect_expr, stmtIdents,
        Stmt.collectAll]
  | guard subject =>
      cases init <;> simp [StmtKind.collect_typeSwitch, StmtKind.collect_expr,
        Expr.collect_assertion, stmtIdents, Stmt.collectAll]
  | binding binding subject =>
      cases init <;> simp [StmtKind.collect_typeSwitch, StmtKind.collect_assign, Expr.collectAll,
        Expr.collect_ident, Expr.collect_assertion, stmtIdents, Stmt.collectAll]

variable {below : Reader} {state : ParserState}

/-- The token of an assignment spells no name. -/
theorem assignOp_reads {op : AssignOp} (found : AssignOp.ofKind? state.kind = some op) :
    Reads false state.ahead [] state.advance.ahead := by
  have kind := AssignOp.ofKind?_eq_some_iff.1 found
  exact reads_skip kind (by cases op <;> rfl)

/-- A simple statement keeps the names of the expressions read before it. -/
theorem simpleFrom_reads (keeps : below.PassesNames) {words : List Token} {first : Expr}
    {others : List Expr}
    (passed : Reads false words (Expr.identsAll (first :: others)) state.ahead) :
    (simpleFrom below first others).Ensures state fun kind final =>
      Reads false words kind.idents final.ahead := by
  unfold simpleFrom
  simp only [ends_bind, ends_peek]
  split
  case h_1 op found =>
    simp
    refine (exprList_reads keeps).weaken fun values final valuesPassed => ?_
    exact passed.trans ((assignOp_reads found).trans valuesPassed)
  case h_2 =>
    simp only [ends_ite]
    refine ⟨fun _ => by simp, fun alone => ?_⟩
    have firstPassed : Reads false words first.idents state.ahead := by
      have noOthers : others = [] := by simpa using alone
      exact passed.relist (by simp [noOthers, Expr.collectAll])
    split
    case h_1 arrow =>
      simp
      refine (expr_reads keeps).weaken fun value final valuePassed => ?_
      exact firstPassed.trans ((reads_skip arrow rfl).trans valuePassed)
    case h_2 plus =>
      simp
      exact (firstPassed.trans (reads_skip plus rfl)).relist (List.append_nil first.idents)
    case h_3 minus =>
      simp
      exact (firstPassed.trans (reads_skip minus rfl)).relist (List.append_nil first.idents)
    case h_4 => exact firstPassed

theorem simple_reads (keeps : below.PassesNames) :
    (simple below).Ensures state fun kind final =>
      Reads false state.ahead kind.idents final.ahead := by
  simp [simple]
  refine (expr_reads keeps).weaken fun first middle firstPassed => ?_
  refine (keeps.reads .exprTail rfl rfl).weaken fun others final othersPassed => ?_
  exact simpleFrom_reads keeps (firstPassed.trans othersPassed)

theorem loopClause_reads (keeps : below.PassesNames) :
    (loopClause below).Ensures state fun clause final =>
      Reads false state.ahead clause.idents final.ahead := by
  simp [loopClause]
  refine ⟨fun word => ?_, fun _ => ?_⟩
  · refine (expr_reads keeps).weaken fun subject final passed => ?_
    exact (reads_skip word rfl).trans passed
  refine (expr_reads keeps).weaken fun first middle firstPassed => ?_
  refine (keeps.reads .exprTail rfl rfl).weaken fun others now othersPassed => ?_
  refine ⟨fun op range few => ?_, fun _ =>
    simpleFrom_reads keeps (firstPassed.trans othersPassed)⟩
  have opPassed : Reads false now.ahead [] now.advance.ahead := by
    rcases op with op | op <;> exact reads_skip op rfl
  have rangePassed : Reads false now.advance.ahead [] now.advance.advance.ahead :=
    reads_skip (kind_advance.trans range) rfl
  have headAlone : Expr.identsAll others = Expr.identsAll others.head?.toList := by
    rcases others with _ | ⟨second, _ | ⟨third, more⟩⟩
    · rfl
    · rfl
    · simp at few
  refine (expr_reads keeps).weaken fun subject final subjectPassed => ?_
  refine ((firstPassed.trans othersPassed).trans
    (opPassed.trans (rangePassed.trans subjectPassed))).relist ?_
  simp [LoopClause.idents, Production.idents, headAlone, Expr.collectAll]

theorem block_reads (keeps : below.PassesNames) :
    (block below).Ensures state fun body final =>
      Reads false state.ahead body.idents final.ahead := by
  simp [block]
  intro opening
  refine (keeps.reads .stmts rfl rfl).weaken fun stmts middle passed close => ?_
  refine ((reads_skip opening rfl).trans (passed.trans (reads_skip close rfl))).relist ?_
  simp [Production.idents, Block.collect]

theorem stmts_reads (keeps : below.PassesNames) :
    (stmts below).Ensures state fun body final =>
      Reads false state.ahead (Stmt.identsAll body) final.ahead := by
  simp [stmts]
  refine ⟨fun _ => .refl, fun _ _ _ _ => ⟨fun semicolon => ?_, fun _ => ?_⟩⟩
  · refine (keeps.reads .stmts rfl rfl).weaken fun body final passed => ?_
    exact (reads_skip semicolon rfl).trans passed
  refine (keeps.reads .stmt rfl rfl).weaken fun kind afterKind kindPassed => ?_
  refine takeTrailing_ahead.weaken fun comment afterComment same => ?_
  rw [← same] at kindPassed
  have onward : ∀ (doc : List Comment) (now : ParserState),
      Reads false state.ahead (StmtKind.idents kind) now.ahead →
      (below .stmts).Ensures now fun others final =>
        Reads false state.ahead (Stmt.identsAll (⟨doc, kind, comment⟩ :: others)) final.ahead := by
    intro doc now passed
    refine (keeps.reads .stmts rfl rfl).weaken fun others final othersPassed => ?_
    exact passed.trans othersPassed
  refine ⟨fun _ _ => ?_, fun _ => onward _ _ kindPassed⟩
  refine expectSemicolon_reads.weaken fun _ afterEnd endPassed => onward _ _ ?_
  exact (kindPassed.trans endPassed).relist (by simp [Production.idents])

theorem conditionalHeader_reads (keeps : below.PassesNames) (saved : Int) :
    (conditionalHeader below saved).Ensures state fun head final =>
      Reads false state.ahead (stmtIdents head.1 ++ head.2.idents) final.ahead := by
  simp [conditionalHeader]
  refine (simple_reads keeps).weaken fun first middle firstPassed => ?_
  refine ⟨fun semicolon => ?_, fun _ => ?_⟩
  · refine (expr_reads keeps).weaken fun condition final passed => ?_
    refine (firstPassed.trans ((reads_skip semicolon rfl).trans passed)).relist ?_
    simp [stmtIdents, Stmt.collectAll, Stmt.bare, Stmt.collect]
  · split
    · exact firstPassed
    · simp

theorem alternative_reads (keeps : below.PassesNames) :
    (alternative below).Ensures state fun alternative final =>
      Reads false state.ahead (stmtIdents alternative) final.ahead := by
  simp [alternative]
  refine ⟨fun word => ?_, fun _ => .refl⟩
  split
  · simp
    refine (keeps.reads .conditional rfl rfl).weaken fun kind final passed => ?_
    refine ((reads_skip word rfl).trans passed).relist ?_
    simp [stmtIdents, Stmt.collectAll, Stmt.bare, Stmt.collect, Production.idents]
  · simp
    refine (keeps.reads .block rfl rfl).weaken fun body final passed => ?_
    refine ((reads_skip word rfl).trans passed).relist ?_
    exact (List.append_nil body.idents).symm
  · simp

theorem conditional_reads (keeps : below.PassesNames) :
    (conditional below).Ensures state fun kind final =>
      Reads false state.ahead kind.idents final.ahead := by
  simp [conditional]
  intro word
  refine (conditionalHeader_reads keeps _).weaken fun head middle headPassed => ?_
  refine (keeps.reads .block rfl rfl).weaken fun body now bodyPassed => ?_
  refine (alternative_reads keeps).weaken fun alternative final passed => ?_
  refine ((reads_skip word rfl).trans (headPassed.trans (bodyPassed.trans passed))).relist ?_
  obtain ⟨init, condition⟩ := head
  cases init <;> cases alternative <;>
    simp [StmtKind.collect_conditional, stmtIdents, Stmt.collectAll, Production.idents]

theorem switchHeader_reads (keeps : below.PassesNames) :
    (switchHeader below).Ensures state fun head final =>
      Reads false state.ahead (stmtIdents head.1 ++ head.2.elim [] (·.idents))
        final.ahead := by
  simp [switchHeader]
  refine ⟨fun _ => .refl, fun _ => ⟨fun semicolon => ⟨fun _ => ⟨fun _ => ?_, fun _ => ?_⟩,
    fun none => absurd semicolon none⟩, fun _ => ?_⟩⟩
  · exact reads_skip semicolon rfl
  · refine (simple_reads keeps).weaken fun tag final passed => ?_
    exact (reads_skip semicolon rfl).trans passed
  refine (simple_reads keeps).weaken fun first middle firstPassed => ?_
  have asInit : Reads false state.ahead (stmtIdents (some (.bare first))) middle.ahead :=
    firstPassed.relist (by simp [stmtIdents, Stmt.collectAll, Stmt.bare, Stmt.collect])
  refine ⟨fun semicolon => ⟨fun _ => ?_, fun _ => ?_⟩, fun _ => firstPassed⟩
  · exact (asInit.trans (reads_skip semicolon rfl)).relist (by simp)
  · refine (simple_reads keeps).weaken fun tag final passed => ?_
    exact asInit.trans ((reads_skip semicolon rfl).trans passed)

theorem switch_reads (keeps : below.PassesNames) :
    (switch below).Ensures state fun kind final =>
      Reads false state.ahead kind.idents final.ahead := by
  simp [switch]
  intro word
  refine (switchHeader_reads keeps).weaken fun head middle headPassed opening => ?_
  refine (keeps.reads .caseClauses rfl rfl).weaken fun clauses now clausesPassed close => ?_
  split
  case h_1 kind found =>
    simp
    refine (((reads_skip word rfl).trans headPassed).trans ((reads_skip opening rfl).trans
      (clausesPassed.trans (reads_skip close rfl)))).relist ?_
    simp [switchOf?_idents found, Production.idents]
  case h_2 => simp

/-- The word before a clause spells no name. -/
theorem caseWord_reads (word : state.kind = .caseKw ∨ state.kind = .defaultKw) :
    Reads false state.ahead [] state.advance.ahead := by
  rcases word with word | word <;> exact reads_skip word rfl

theorem caseClauses_reads (keeps : below.PassesNames) :
    (caseClauses below).Ensures state fun clauses final =>
      Reads false state.ahead (CaseClause.identsAll clauses) final.ahead := by
  simp [caseClauses]
  have onward : ∀ (doc : List Comment) (list : Option (List Expr)) (now : ParserState),
      Reads false state.ahead (list.elim [] Expr.identsAll) now.ahead →
      (below .stmts).Ensures now fun body middle =>
        (below .caseClauses).Ensures middle fun others final =>
          Reads false state.ahead (CaseClause.identsAll (⟨doc, list, body⟩ :: others))
            final.ahead := by
    intro doc list now passed
    refine (keeps.reads .stmts rfl rfl).weaken fun body middle bodyPassed => ?_
    refine (keeps.reads .caseClauses rfl rfl).weaken fun others final othersPassed => ?_
    refine (passed.trans (bodyPassed.trans othersPassed)).relist ?_
    cases list <;> simp [CaseClause.collectAll, Production.idents]
  refine ⟨fun word => ⟨fun _ => ?_, fun _ colon => ?_⟩, fun _ _ => .refl⟩
  · refine (exprList_reads keeps).weaken fun list middle passed colon => ?_
    refine onward _ (some list) _
      (((caseWord_reads word).trans (passed.trans (reads_skip colon rfl))).relist ?_)
    simp
  · exact onward _ none _ ((caseWord_reads word).trans (reads_skip colon rfl))

theorem select_reads (keeps : below.PassesNames) :
    (select below).Ensures state fun kind final =>
      Reads false state.ahead kind.idents final.ahead := by
  simp [select]
  intro word opening
  refine (keeps.reads .commClauses rfl rfl).weaken fun clauses middle passed close => ?_
  refine (((reads_skip word rfl).trans (reads_skip opening rfl)).trans
    (passed.trans (reads_skip close rfl))).relist ?_
  simp [StmtKind.collect_select, Production.idents]

theorem commClauses_reads (keeps : below.PassesNames) :
    (commClauses below).Ensures state fun clauses final =>
      Reads false state.ahead (CommClause.identsAll clauses) final.ahead := by
  simp [commClauses]
  have onward : ∀ (doc : List Comment) (comm : Option Stmt) (now : ParserState),
      Reads false state.ahead (stmtIdents comm) now.ahead →
      (below .stmts).Ensures now fun body middle =>
        (below .commClauses).Ensures middle fun others final =>
          Reads false state.ahead (CommClause.identsAll (⟨doc, comm, body⟩ :: others))
            final.ahead := by
    intro doc comm now passed
    refine (keeps.reads .stmts rfl rfl).weaken fun body middle bodyPassed => ?_
    refine (keeps.reads .commClauses rfl rfl).weaken fun others final othersPassed => ?_
    refine (passed.trans (bodyPassed.trans othersPassed)).relist ?_
    cases comm <;> simp [CommClause.collectAll, Production.idents, stmtIdents, Stmt.collectAll]
  refine ⟨fun word => ⟨fun _ => ?_, fun _ colon => ?_⟩, fun _ _ => .refl⟩
  · refine (simple_reads keeps).weaken fun comm middle passed colon => ?_
    refine onward _ (some (.bare comm)) _
      (((caseWord_reads word).trans (passed.trans (reads_skip colon rfl))).relist ?_)
    simp [stmtIdents, Stmt.collectAll, Stmt.bare, Stmt.collect]
  · exact onward _ none _ ((caseWord_reads word).trans (reads_skip colon rfl))

theorem loopClauses_reads (keeps : below.PassesNames) (init : Option Stmt) :
    (loopClauses below init).Ensures state fun head final =>
      ∃ read, head.idents = stmtIdents init ++ read ∧
        Reads false state.ahead read final.ahead := by
  simp [loopClauses]
  have ended : ∀ (condition : Option Expr) (now : ParserState),
      Reads false state.ahead (Expr.identsAll condition.toList) now.ahead →
      now.kind = .semicolon →
      (now.advance.kind = .leftBrace →
        ∃ read, (LoopHeader.clauses init condition none).idents = stmtIdents init ++ read ∧
          Reads false state.ahead read now.advance.ahead) ∧
      (¬now.advance.kind = .leftBrace →
        (simple below).Ensures now.advance fun post final =>
          ∃ read, (LoopHeader.clauses init condition (some (.bare post))).idents =
              stmtIdents init ++ read ∧
            Reads false state.ahead read final.ahead) := by
    intro condition now passed semicolon
    have passed := passed.trans (reads_skip semicolon rfl)
    refine ⟨fun _ => ⟨_, ?_, passed⟩, fun _ => ?_⟩
    · simp [LoopHeader.idents, stmtIdents, Stmt.collectAll]
    · refine (simple_reads keeps).weaken fun post final postPassed => ?_
      refine ⟨_, ?_, passed.trans postPassed⟩
      simp [LoopHeader.idents, stmtIdents, Stmt.collectAll, Stmt.bare, Stmt.collect]
  refine ⟨fun semicolon => ended none state .refl semicolon, fun _ => ?_⟩
  refine (expr_reads keeps).weaken fun condition middle passed => ?_
  exact ended (some condition) middle (passed.relist (by simp [Expr.collectAll]))

theorem loopHeader_reads (keeps : below.PassesNames) (saved : Int) :
    (loopHeader below saved).Ensures state fun head final =>
      Reads false state.ahead head.idents final.ahead := by
  simp [loopHeader]
  refine ⟨fun _ => .refl, fun _ => ⟨fun semicolon => ?_, fun _ => ?_⟩⟩
  · refine (loopClauses_reads keeps none).weaken ?_
    rintro head final ⟨read, same, passed⟩
    exact ((reads_skip semicolon rfl).trans passed).relist
      (by simp [same, stmtIdents, Stmt.collectAll])
  refine (loopClause_reads keeps).weaken fun clause middle passed => ?_
  cases clause with
  | range key value define subject => exact passed
  | simple first =>
      simp
      refine ⟨fun semicolon => ?_, fun _ => ?_⟩
      · refine (loopClauses_reads keeps (some (.bare first))).weaken ?_
        rintro head final ⟨read, same, morePassed⟩
        refine (passed.trans ((reads_skip semicolon rfl).trans morePassed)).relist ?_
        simp [same, stmtIdents, Stmt.collectAll, Stmt.bare, Stmt.collect, LoopClause.idents]
      · split
        · exact passed.relist (by simp [LoopClause.idents, LoopHeader.idents, stmtIdents,
            Stmt.collectAll, Expr.collectAll, StmtKind.collect_expr])
        · simp

theorem loop_reads (keeps : below.PassesNames) :
    (loop below).Ensures state fun kind final =>
      Reads false state.ahead kind.idents final.ahead := by
  simp [loop]
  intro word
  refine (loopHeader_reads keeps _).weaken fun head middle headPassed => ?_
  cases head with
  | range key value define subject =>
      simp
      refine (keeps.reads .block rfl rfl).weaken fun body final bodyPassed => ?_
      refine ((reads_skip word rfl).trans (headPassed.trans bodyPassed)).relist ?_
      cases key <;> cases value <;>
        simp [StmtKind.collect_range, LoopHeader.idents, Expr.collectAll, Production.idents]
  | clauses init condition post =>
      simp
      refine (keeps.reads .block rfl rfl).weaken fun body final bodyPassed => ?_
      refine ((reads_skip word rfl).trans (headPassed.trans bodyPassed)).relist ?_
      cases init <;> cases condition <;> cases post <;>
        simp [StmtKind.collect_loop, LoopHeader.idents, stmtIdents, Stmt.collectAll,
          Expr.collectAll, Production.idents]

end Grammar

end GoMend
