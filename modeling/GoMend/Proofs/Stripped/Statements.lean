import GoMend.Grammar.Statements
import GoMend.Proofs.Stripped.Expressions

/-!
# Statements read side by side
-/

namespace GoMend.Grammar

open GoMend.Parser

/-! ## Headers -/

/-- The statement or range clause in the header of a loop stripped. -/
def LoopClause.stripped : LoopClause → LoopClause
  | .simple stmt => .simple stmt.stripped
  | .range key value define subject =>
      .range (Expr.strippedOptional key) (Expr.strippedOptional value) define subject.stripped

/-- The header of a loop stripped. -/
def LoopHeader.stripped : LoopHeader → LoopHeader
  | .range key value define subject =>
      .range (Expr.strippedOptional key) (Expr.strippedOptional value) define subject.stripped
  | .clauses init condition post =>
      .clauses (Stmt.strippedOptional init) (Expr.strippedOptional condition)
        (Stmt.strippedOptional post)

/-- The header of a switch stripped. -/
def strippedSwitch (header : Option Stmt × Option StmtKind) : Option Stmt × Option StmtKind :=
  (Stmt.strippedOptional header.1, header.2.map StmtKind.stripped)

/-- The header of a conditional stripped. -/
def strippedConditional (header : Option Stmt × Expr) : Option Stmt × Expr :=
  (Stmt.strippedOptional header.1, header.2.stripped)

/-- The guard of a type switch stripped. -/
def strippedGuard (guard_ : Ident × Expr) : Ident × Expr :=
  (guard_.1.stripped, guard_.2.stripped)

theorem typeSwitchGuard?_stripped (targets : List Expr) (op : AssignOp) (values : List Expr) :
    typeSwitchGuard? (Expr.strippedAll targets) op (Expr.strippedAll values) =
      (typeSwitchGuard? targets op values).map strippedGuard := by
  rcases targets with _ | ⟨target, _ | ⟨other, rest⟩⟩
  · rfl
  · cases target with
    | ident binding =>
        cases op with
        | define =>
            rcases values with _ | ⟨value, _ | ⟨other, rest⟩⟩
            · rfl
            · cases value with
              | assertion subject type => cases type <;> rfl
              | _ => rfl
            · cases value with
              | assertion subject type => cases type <;> rfl
              | _ => rfl
        | _ => rfl
    | _ => rfl
  · cases target <;> rfl

/-- Which switch a header stands for does not depend on positions. -/
theorem switchOf?_stripped (init : Option Stmt) (clauses : List CaseClause)
    (tag : Option StmtKind) :
    switchOf? (Stmt.strippedOptional init) (CaseClause.strippedAll clauses)
        (tag.map StmtKind.stripped) =
      (switchOf? init clauses tag).map StmtKind.stripped := by
  cases tag with
  | none => rfl
  | some kind =>
      cases kind with
      | expr subject =>
          cases subject with
          | assertion subject type => cases type <;> rfl
          | _ => rfl
      | assign targets op values =>
          have guarded := typeSwitchGuard?_stripped targets op values
          have unfolded : switchOf? (Stmt.strippedOptional init) (CaseClause.strippedAll clauses)
              ((some (StmtKind.assign targets op values)).map StmtKind.stripped) =
              (typeSwitchGuard? (Expr.strippedAll targets) op (Expr.strippedAll values)).map
                fun guard => .typeSwitch (Stmt.strippedOptional init) (some guard.1) guard.2
                  (CaseClause.strippedAll clauses) := rfl
          rw [unfolded, guarded, switchOf?, Option.map_map, Option.map_map]
          rfl
      | _ => rfl

variable {start start' : ParserState} {below : Reader} (reads : below.Agrees start start')

/-- A statement that consists of an expression does so on both sides. -/
theorem expression_of_same {found found' : StmtKind}
    (same : SameBy StmtKind.stripped found found') :
    (∃ expr expr', found = .expr expr ∧ found' = .expr expr' ∧ SameBy Expr.stripped expr expr') ∨
      (∀ expr, found ≠ .expr expr) ∧ ∀ expr, found' ≠ .expr expr := by
  cases found with
  | expr expr =>
      cases found' with
      | expr expr' => exact .inl ⟨expr, expr', rfl, rfl, StmtKind.expr.inj same⟩
      | _ => cases same
  | _ =>
      cases found' with
      | expr expr' => cases same
      | _ => exact .inr ⟨nofun, nofun⟩

/-! ## Simple statements -/

theorem length_strippedAll (exprs : List Expr) :
    (Expr.strippedAll exprs).length = exprs.length := by
  induction exprs with
  | nil => rfl
  | cons _ _ ih => exact congrArg (· + 1) ih

theorem head?_strippedAll (exprs : List Expr) :
    (Expr.strippedAll exprs).head? = Expr.strippedOptional exprs.head? := by
  cases exprs <;> rfl

include reads

theorem agrees_simpleFrom {first first' : Expr} {others others' : List Expr}
    (sameFirst : SameBy Expr.stripped first first')
    (sameOthers : SameBy Expr.strippedAll others others') :
    Agrees start start' (SameBy StmtKind.stripped) (simpleFrom below first others)
      (simpleFrom below first' others') := by
  have single : others.isEmpty = others'.isEmpty := by
    have lengths := congrArg List.length sameOthers
    rw [length_strippedAll, length_strippedAll] at lengths
    rw [Bool.eq_iff_iff, List.isEmpty_iff_length_eq_zero, lengths, List.isEmpty_iff_length_eq_zero]
  refine agrees_peek fun kind => Agrees.at ?_
  split
  · rename_i op _
    refine agrees_bump.bind fun _ _ _ => (agrees_exprList reads).bind fun values values'
      sameValues => .pure ?_
    exact congrArg₂ (StmtKind.assign · op ·) (congrArg₂ List.cons sameFirst sameOthers) sameValues
  · rw [single]
    refine .ite (fun _ => agrees_fail _) fun _ => ?_
    split
    · exact agrees_bump.bind fun _ _ _ => (agrees_expr reads).bind fun _ _ same =>
        .pure (congrArg₂ StmtKind.send sameFirst same)
    · exact agrees_bump.bind fun _ _ _ => .pure (congrArg (StmtKind.incDec · true) sameFirst)
    · exact agrees_bump.bind fun _ _ _ => .pure (congrArg (StmtKind.incDec · false) sameFirst)
    · exact .pure (congrArg StmtKind.expr sameFirst)

theorem agrees_simple : Agrees start start' (SameBy StmtKind.stripped) (simple below)
    (simple below) :=
  (agrees_expr reads).bind fun _ _ sameFirst => (reads.each .exprTail).bind
    fun _ _ sameOthers => agrees_simpleFrom reads sameFirst sameOthers

theorem agrees_loopClause : Agrees start start' (SameBy LoopClause.stripped) (loopClause below)
    (loopClause below) := by
  refine .check (agrees_eat _) ((agrees_expr reads).bind fun _ _ same =>
    .pure (congrArg (LoopClause.range none none false) same)) ?_
  refine (agrees_expr reads).bind fun first first' sameFirst => (reads.each .exprTail).bind
    fun others others' sameOthers => ?_
  have count : others.length = others'.length :=
    (length_strippedAll others).symm.trans
      ((congrArg List.length sameOthers).trans (length_strippedAll others'))
  have sameValue : SameBy Expr.strippedOptional others.head? others'.head? :=
    (head?_strippedAll others).symm.trans
      ((congrArg List.head? sameOthers).trans (head?_strippedAll others'))
  refine (agrees_atAny _).bind fun assigns _ same => ?_
  subst same
  refine agrees_peekSecond.bind fun second _ same => ?_
  subst same
  refine .ite (fun _ => ?_) fun _ =>
    (agrees_simpleFrom reads sameFirst sameOthers).bind fun _ _ same =>
      .pure (congrArg LoopClause.simple same)
  refine agrees_bump.bind fun op op' read => agrees_bump.bind fun _ _ _ => ?_
  obtain ⟨_, read⟩ := read
  rw [count, read.alike.kind]
  refine .ite (fun _ => agrees_fail _) fun _ => (agrees_expr reads).bind
    fun subject subject' sameSubject => .pure ?_
  have clause := congr (congrArg₂ (LoopClause.range · · (op'.kind == .colonEq))
    (congrArg some sameFirst : SameBy Expr.strippedOptional (some first) (some first')) sameValue)
    sameSubject
  exact clause

/-! ## Blocks and conditionals -/

theorem agrees_block : Agrees start start' (SameBy Block.stripped) (block below) (block below) :=
  (agrees_expect _).bind fun _ _ _ => (reads.each .stmts).bind fun _ _ same =>
    agrees_takeDoc.bind fun _ _ _ => (agrees_expect _).bind fun _ _ _ =>
      .pure (congrArg (Block.mk · []) same)

theorem agrees_stmts : Agrees start start' (SameBy Stmt.strippedAll) (stmts below)
    (stmts below) := by
  refine .check (agrees_atAny _) (.pure rfl) (.check (agrees_eat _) (reads.each .stmts) ?_)
  refine agrees_takeDoc.bind fun _ _ _ => (reads.each .stmt).bind fun kind kind' sameKind =>
    agrees_takeTrailing.bind fun _ _ _ => (agrees_atAny _).bind fun atClause _ same => ?_
  subst same
  extract_lets next next'
  have goesOn : Agrees start start' (SameBy Stmt.strippedAll) (next ()) (next' ()) := by
    refine (reads.each .stmts).bind fun _ _ sameRest => .pure ?_
    exact congrArg₂ (fun kind rest => Stmt.mk [] kind none :: rest) sameKind sameRest
  exact .ite (fun _ => agrees_expectSemicolon.bind fun _ _ _ => goesOn) fun _ => goesOn

theorem agrees_conditionalHeader (saved : Int) : Agrees start start' (SameBy strippedConditional)
    (conditionalHeader below saved) (conditionalHeader below saved) := by
  refine (agrees_simple reads).bind fun first first' sameFirst => .check (agrees_eat _)
    ((agrees_expr reads).bind fun _ _ sameCondition =>
      .pure (congrArg₂ (fun first condition => (some (Stmt.bare first), condition)) sameFirst
        sameCondition)) ?_
  rcases expression_of_same sameFirst with ⟨_, _, rfl, rfl, same⟩ | ⟨other, other'⟩
  · exact .pure (congrArg (none, ·) same)
  · split
    · exact absurd rfl (other _)
    · exact (agrees_setLevel saved).bind fun _ _ _ => agrees_fail _

theorem agrees_alternative : Agrees start start' (SameBy Stmt.strippedOptional)
    (alternative below) (alternative below) := by
  refine .check (agrees_eat _) (agrees_peek fun kind => Agrees.at ?_) (.pure rfl)
  split
  · exact (reads.each .conditional).bind fun _ _ same =>
      .pure (congrArg (fun kind => some (Stmt.bare kind)) same)
  · exact (reads.each .block).bind fun _ _ same =>
      .pure (congrArg (fun block => some (Stmt.bare (.block block))) same)
  · exact agrees_fail _

theorem agrees_conditional : Agrees start start' (SameBy StmtKind.stripped) (conditional below)
    (conditional below) := by
  refine (agrees_expect _).bind fun _ _ _ => .restored (agrees_conditionalHeader reads)
    fun header header' sameHeader => (reads.each .block).bind fun body body' sameBody =>
      (agrees_alternative reads).bind fun other other' sameOther => .pure ?_
  obtain ⟨sameInit, sameCondition⟩ := Prod.mk.inj sameHeader
  have whole := congr (congr (congrArg₂ StmtKind.conditional sameInit sameCondition) sameBody)
    sameOther
  exact whole

/-! ## Switches and selections -/

omit reads in
theorem strippedOptional_bare (kind : Option StmtKind) :
    Stmt.strippedOptional (kind.map Stmt.bare) =
      (kind.map StmtKind.stripped).map Stmt.bare := by
  cases kind <;> rfl

theorem agrees_switchHeader : Agrees start start' (SameBy strippedSwitch) (switchHeader below)
    (switchHeader below) := by
  refine .check (agrees_at? _) (.pure rfl) ((agrees_at? _).bind fun empty _ same => ?_)
  subst same
  extract_lets next
  have goesOn : ∀ first first', SameBy (Option.map StmtKind.stripped) first first' →
      Agrees start start' (SameBy strippedSwitch) (next first) (next first') := by
    intro first first' sameFirst
    have sameInit : SameBy Stmt.strippedOptional (first.map Stmt.bare) (first'.map Stmt.bare) := by
      rw [SameBy, strippedOptional_bare, strippedOptional_bare, sameFirst]
    refine .check (agrees_eat _) (.check (agrees_at? _) ?_ ?_) ?_
    · exact .pure (congrArg (·, none) sameInit)
    · exact (agrees_simple reads).bind fun _ _ same =>
        .pure (congrArg₂ (fun init tag => (init, some tag)) sameInit same)
    · exact .pure (congrArg (none, ·) sameFirst)
  exact .ite (fun _ => goesOn _ _ rfl)
    fun _ => (agrees_simple reads).bind fun _ _ same => goesOn _ _ (congrArg some same)

theorem agrees_switch : Agrees start start' (SameBy StmtKind.stripped) (switch below)
    (switch below) := by
  refine (agrees_expect _).bind fun _ _ _ => .restored (fun _ => agrees_switchHeader reads)
    fun header header' sameHeader => (agrees_expect _).bind fun _ _ _ =>
      (reads.each .caseClauses).bind fun clauses clauses' sameClauses =>
        (agrees_expect _).bind fun _ _ _ => ?_
  obtain ⟨sameInit, sameTag⟩ := Prod.mk.inj sameHeader
  have switches : (switchOf? header.1 clauses header.2).map StmtKind.stripped =
      (switchOf? header'.1 clauses' header'.2).map StmtKind.stripped := by
    rw [← switchOf?_stripped, ← switchOf?_stripped, sameInit, sameTag]
    exact congrArg (switchOf? _ · _) sameClauses
  cases isSwitch : switchOf? header.1 clauses header.2 with
  | none =>
      rw [isSwitch, Option.map_none, eq_comm, Option.map_eq_none_iff] at switches
      rw [switches]
      exact agrees_fail _
  | some stmt =>
      rw [isSwitch, Option.map_some, eq_comm, Option.map_eq_some_iff] at switches
      obtain ⟨stmt', isSwitch', sameStmt⟩ := switches
      rw [isSwitch']
      exact .pure sameStmt.symm

omit reads in
/-- Comments before a clause make no difference. -/
theorem same_caseClause {doc doc' : List Comment} {list list' : Option (List Expr)}
    {body body' : List Stmt} {rest rest' : List CaseClause}
    (sameList : SameBy (Option.map Expr.strippedAll) list list')
    (sameBody : SameBy Stmt.strippedAll body body')
    (sameRest : SameBy CaseClause.strippedAll rest rest') :
    SameBy CaseClause.strippedAll (⟨doc, list, body⟩ :: rest) (⟨doc', list', body'⟩ :: rest') := by
  have clauses : ∀ (doc : List Comment) (list : Option (List Expr)) (body : List Stmt)
      (rest : List CaseClause), CaseClause.strippedAll (⟨doc, list, body⟩ :: rest) =
        ⟨[], list.map Expr.strippedAll, Stmt.strippedAll body⟩ :: CaseClause.strippedAll rest := by
    rintro _ (_ | _) _ _ <;> rfl
  rw [SameBy, clauses, clauses, sameList, sameBody, sameRest]

theorem agrees_caseClauses : Agrees start start' (SameBy CaseClause.strippedAll)
    (caseClauses below) (caseClauses below) := by
  refine .check (agrees_atAny _) ?_ (.pure rfl)
  refine agrees_takeDoc.bind fun _ _ _ => agrees_bump.bind fun word word' read => ?_
  obtain ⟨_, read⟩ := read
  rw [read.alike.kind]
  extract_lets next next'
  have goesOn : ∀ list list', SameBy (Option.map Expr.strippedAll) list list' →
      Agrees start start' (SameBy CaseClause.strippedAll) (next list) (next' list') := by
    intro list list' sameList
    refine (agrees_expect _).bind fun _ _ _ => (reads.each .stmts).bind fun _ _ sameBody =>
      (reads.each .caseClauses).bind fun _ _ sameRest => .pure ?_
    exact same_caseClause sameList sameBody sameRest
  exact .ite
    (fun _ => (agrees_exprList reads).bind fun _ _ same => goesOn _ _ (congrArg some same))
    fun _ => goesOn _ _ rfl

theorem agrees_select : Agrees start start' (SameBy StmtKind.stripped) (select below)
    (select below) :=
  (agrees_expect _).bind fun _ _ _ => (agrees_expect _).bind fun _ _ _ =>
    (reads.each .commClauses).bind fun _ _ same => (agrees_expect _).bind fun _ _ _ =>
      .pure (congrArg StmtKind.select same)

theorem agrees_commClauses : Agrees start start' (SameBy CommClause.strippedAll)
    (commClauses below) (commClauses below) := by
  refine .check (agrees_atAny _) ?_ (.pure rfl)
  refine agrees_takeDoc.bind fun _ _ _ => agrees_bump.bind fun word word' read => ?_
  obtain ⟨_, read⟩ := read
  rw [read.alike.kind]
  extract_lets next next'
  have goesOn : ∀ comm comm', SameBy Stmt.strippedOptional comm comm' →
      Agrees start start' (SameBy CommClause.strippedAll) (next comm) (next' comm') := by
    intro comm comm' sameComm
    refine (agrees_expect _).bind fun _ _ _ => (reads.each .stmts).bind fun _ _ sameBody =>
      (reads.each .commClauses).bind fun _ _ sameRest => .pure ?_
    have clauses := congr (congrArg₂ (fun comm body rest => CommClause.mk [] comm body :: rest)
      sameComm sameBody) sameRest
    exact clauses
  exact .ite
    (fun _ => (agrees_simple reads).bind fun _ _ same =>
      goesOn _ _ (congrArg (fun kind => some (Stmt.bare kind)) same))
    fun _ => goesOn _ _ rfl

/-! ## Loops -/

theorem agrees_loopClauses {init init' : Option Stmt}
    (sameInit : SameBy Stmt.strippedOptional init init') : Agrees start start'
      (SameBy LoopHeader.stripped) (loopClauses below init) (loopClauses below init') := by
  refine (agrees_at? _).bind fun empty _ same => ?_
  subst same
  extract_lets next next'
  have goesOn : ∀ condition condition', SameBy Expr.strippedOptional condition condition' →
      Agrees start start' (SameBy LoopHeader.stripped) (next condition) (next' condition') := by
    intro condition condition' sameCondition
    refine (agrees_expect _).bind fun _ _ _ => (agrees_at? _).bind fun last _ same => ?_
    subst same
    have ends : ∀ post post', SameBy Stmt.strippedOptional post post' →
        SameBy LoopHeader.stripped (.clauses init condition post)
          (.clauses init' condition' post') := by
      intro post post' samePost
      have header := congr (congrArg₂ LoopHeader.clauses sameInit sameCondition) samePost
      exact header
    exact .ite (fun _ => .pure (ends _ _ rfl))
      fun _ => (agrees_simple reads).bind fun _ _ same =>
        .pure (ends _ _ (congrArg (fun kind => some (Stmt.bare kind)) same))
  exact .ite (fun _ => goesOn _ _ rfl)
    fun _ => (agrees_expr reads).bind fun _ _ same => goesOn _ _ (congrArg some same)

theorem agrees_loopHeader (saved : Int) : Agrees start start' (SameBy LoopHeader.stripped)
    (loopHeader below saved) (loopHeader below saved) := by
  refine .check (agrees_at? _) (.pure rfl) (.check (agrees_eat _)
    (agrees_loopClauses reads rfl) ((agrees_loopClause reads).bind
      fun clause clause' sameClause => ?_))
  cases clause with
  | range =>
      cases clause' with
      | simple => cases sameClause
      | range =>
          obtain ⟨sameKey, sameValue, sameDefine, sameSubject⟩ := LoopClause.range.inj sameClause
          have header := congr (congr (congrArg₂ LoopHeader.range sameKey sameValue) sameDefine)
            sameSubject
          exact .pure header
  | simple first =>
      cases clause' with
      | range => cases sameClause
      | simple first' =>
          have sameFirst : SameBy StmtKind.stripped first first' :=
            LoopClause.simple.inj sameClause
          refine .check (agrees_eat _) (agrees_loopClauses reads ?_) ?_
          · exact congrArg (fun kind => some (Stmt.bare kind)) sameFirst
          rcases expression_of_same sameFirst with ⟨_, _, rfl, rfl, same⟩ | ⟨other, other'⟩
          · exact .pure (congrArg (LoopHeader.clauses none · none) (congrArg some same))
          · split
            · exact absurd rfl (other _)
            · exact (agrees_setLevel saved).bind fun _ _ _ => agrees_fail _

theorem agrees_loop : Agrees start start' (SameBy StmtKind.stripped) (loop below)
    (loop below) := by
  rw [loop_eq]
  refine (agrees_expect _).bind fun _ _ _ => .restored (agrees_loopHeader reads)
    fun header header' sameHeader => ?_
  cases header with
  | range =>
      cases header' with
      | clauses => cases sameHeader
      | range =>
          obtain ⟨sameKey, sameValue, sameDefine, sameSubject⟩ := LoopHeader.range.inj sameHeader
          refine (reads.each .block).bind fun _ _ sameBody => .pure ?_
          have whole := congr (congr (congr (congrArg₂ StmtKind.range sameKey sameValue) sameDefine)
            sameSubject) sameBody
          exact whole
  | clauses =>
      cases header' with
      | range => cases sameHeader
      | clauses =>
          obtain ⟨sameInit, sameCondition, samePost⟩ := LoopHeader.clauses.inj sameHeader
          refine (reads.each .block).bind fun _ _ sameBody => .pure ?_
          have whole := congr (congr (congrArg₂ StmtKind.loop sameInit sameCondition) samePost)
            sameBody
          exact whole

end GoMend.Grammar
