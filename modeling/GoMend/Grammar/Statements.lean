import GoMend.Grammar.Expressions

/-!
# Statements
-/

namespace GoMend.Grammar

open GoMend.Parser

/-- A simple statement in the header of a loop: a statement or a range clause. -/
inductive LoopClause where
  | simple (stmt : StmtKind)
  | range (key value : Option Expr) (define : Bool) (subject : Expr)

/-- The binding and the subject of `v := x.(type)`. -/
def typeSwitchGuard? : List Expr → AssignOp → List Expr → Option (Ident × Expr)
  | [.ident binding], .define, [.assertion subject none] => some (binding, subject)
  | _, _, _ => none

/-- The switch that a header statement and clauses stand for. -/
def switchOf? (init : Option Stmt) (clauses : List CaseClause) :
    Option StmtKind → Option StmtKind
  | none => some (.switch init none clauses)
  | some (.expr (.assertion subject none)) =>
      some (.typeSwitch init none subject clauses)
  | some (.expr tag) => some (.switch init (some tag) clauses)
  | some (.assign targets op values) =>
      (typeSwitchGuard? targets op values).map fun (binding, subject) =>
        .typeSwitch init (some binding) subject clauses
  | some _ => none

/-- What the header of a switch makes of it, declaratively: nothing, a value, or the guard of a
type switch, with a binding or without. -/
inductive Switches (init : Option Stmt) (clauses : List CaseClause) :
    Option StmtKind → StmtKind → Prop where
  | bare : Switches init clauses none (.switch init none clauses)
  | value (tag : Expr) : (∀ subject, tag ≠ .assertion subject none) →
      Switches init clauses (some (.expr tag)) (.switch init (some tag) clauses)
  | guard (subject : Expr) :
      Switches init clauses (some (.expr (.assertion subject none)))
        (.typeSwitch init none subject clauses)
  | binding (binding : Ident) (subject : Expr) :
      Switches init clauses (some (.assign [.ident binding] .define [.assertion subject none]))
        (.typeSwitch init (some binding) subject clauses)

theorem switches_of_switchOf? {init : Option Stmt} {clauses : List CaseClause}
    {tag : Option StmtKind} {kind : StmtKind} (made : switchOf? init clauses tag = some kind) :
    Switches init clauses tag kind := by
  unfold switchOf? at made
  split at made
  · cases made
    exact .bare
  · rename_i subject
    cases made
    exact .guard subject
  · rename_i tag noGuard
    cases made
    exact .value tag noGuard
  · rename_i targets op values
    obtain ⟨⟨binding, subject⟩, guard, rfl⟩ := Option.map_eq_some_iff.1 made
    unfold typeSwitchGuard? at guard
    split at guard
    · cases guard
      exact .binding binding subject
    · cases guard
  · cases made

/-- The jump that a keyword stands for. -/
def branchKeyword : Kind → BranchKeyword
  | .breakKw => .leave
  | .continueKw => .next
  | .gotoKw => .jump
  | _ => .fall

variable (below : Reader)

/-- A simple statement whose first expressions have been read. -/
def simpleFrom (first : Expr) (others : List Expr) : Parser StmtKind := do
  let kind ← peek
  match AssignOp.ofKind? kind with
  | some op =>
      let _ ← bump
      return .assign (first :: others) op (← exprList below)
  | none =>
      if !others.isEmpty then fail (.noAssignment kind)
      else
        match kind with
        | .arrow =>
            let _ ← bump
            return .send first (← expr below)
        | .plusPlus =>
            let _ ← bump
            return .incDec first true
        | .minusMinus =>
            let _ ← bump
            return .incDec first false
        | _ => return .expr first

/-- An expression, a send, an increment or an assignment. -/
def simple : Parser StmtKind := do
  let first ← expr below
  let others ← below .exprTail
  simpleFrom below first others

/-- A simple statement or a range clause. -/
def loopClause : Parser LoopClause := do
  if ← eat .rangeKw then return .range none none false (← expr below)
  else
    let first ← expr below
    let others ← below .exprTail
    if (← atAny [.eq, .colonEq]) && (← peekSecond) == .rangeKw then
      let op ← bump
      let _ ← bump
      if others.length > 1 then fail .tooManyRangeVariables
      else
        let subject ← expr below
        return .range (some first) others.head? (op.kind == .colonEq) subject
    else return .simple (← simpleFrom below first others)

/-- A block in braces. -/
def block : Parser Block := do
  let _ ← expect .leftBrace
  let stmts ← below .stmts
  let closing ← takeDoc
  let _ ← expect .rightBrace
  return { stmts, closing }

/-- The statements of a block or clause. -/
def stmts : Parser (List Stmt) := do
  if ← atAny [.rightBrace, .caseKw, .defaultKw, .endOfFile] then return []
  else if ← eat .semicolon then below .stmts
  else
    let doc ← takeDoc
    let kind ← below .stmt
    let comment ← takeTrailing
    if !(← atAny [.caseKw, .defaultKw]) then expectSemicolon
    return { doc, kind, comment } :: (← below .stmts)

/-- The header of a conditional: perhaps an initial statement, and a condition.  The level outside
of the header is put back before a statement is refused as condition. -/
def conditionalHeader (saved : Int) : Parser (Option Stmt × Expr) := do
  let first ← simple below
  if ← eat .semicolon then return (some (.bare first), ← expr below)
  else
    match first with
    | .expr condition => return (none, condition)
    | _ =>
        setLevel saved
        fail .noCondition

/-- What stands behind a conditional. -/
def alternative : Parser (Option Stmt) := do
  if ← eat .elseKw then
    match ← peek with
    | .ifKw => return some (.bare (← below .conditional))
    | .leftBrace => return some (.bare (.block (← below .block)))
    | kind => fail (.noAlternative kind)
  else return none

/-- A conditional. -/
def conditional : Parser StmtKind := do
  let _ ← expect .ifKw
  let saved ← level
  setLevel (-1)
  let header ← conditionalHeader below saved
  setLevel saved
  let body ← below .block
  return .conditional header.1 header.2 body (← alternative below)

/-- The header of a switch: perhaps an initial statement, perhaps what is switched
on. -/
def switchHeader : Parser (Option Stmt × Option StmtKind) := do
  if ← at? .leftBrace then return (none, none)
  else
    let first ←
      if ← at? .semicolon then pure none
      else pure (some (← simple below))
    if ← eat .semicolon then
      let init := first.map Stmt.bare
      if ← at? .leftBrace then return (init, none)
      else return (init, some (← simple below))
    else return (none, first)

/-- A switch on a value or a type. -/
def switch : Parser StmtKind := do
  let _ ← expect .switchKw
  let saved ← level
  setLevel (-1)
  let header ← switchHeader below
  setLevel saved
  let _ ← expect .leftBrace
  let clauses ← below .caseClauses
  let _ ← expect .rightBrace
  match switchOf? header.1 clauses header.2 with
  | some stmt => return stmt
  | none => fail .noSwitchSubject

/-- The clauses of a switch. -/
def caseClauses : Parser (List CaseClause) := do
  if ← atAny [.caseKw, .defaultKw] then
    let doc ← takeDoc
    let list ←
      if (← bump).kind == .caseKw then pure (some (← exprList below))
      else pure none
    let _ ← expect .colon
    let body ← below .stmts
    return { doc, list, body } :: (← below .caseClauses)
  else return []

/-- A select statement. -/
def select : Parser StmtKind := do
  let _ ← expect .selectKw
  let _ ← expect .leftBrace
  let clauses ← below .commClauses
  let _ ← expect .rightBrace
  return .select clauses

/-- The clauses of a select statement. -/
def commClauses : Parser (List CommClause) := do
  if ← atAny [.caseKw, .defaultKw] then
    let doc ← takeDoc
    let comm ←
      if (← bump).kind == .caseKw then pure (some (Stmt.bare (← simple below)))
      else pure none
    let _ ← expect .colon
    let body ← below .stmts
    return { doc, comm, body } :: (← below .commClauses)
  else return []

/-- The header of a loop. -/
inductive LoopHeader where
  | range (key value : Option Expr) (define : Bool) (subject : Expr)
  | clauses (init : Option Stmt) (condition : Option Expr) (post : Option Stmt)

/-- The condition and the statement between rounds, behind the first semicolon. -/
def loopClauses (init : Option Stmt) : Parser LoopHeader := do
  let condition ←
    if ← at? .semicolon then pure none
    else pure (some (← expr below))
  let _ ← expect .semicolon
  let post ←
    if ← at? .leftBrace then pure none
    else pure (some (Stmt.bare (← simple below)))
  return .clauses init condition post

/-- The header of a loop: nothing, a condition, three clauses or a range.  The level outside of the
header is put back before a statement is refused as condition. -/
def loopHeader (saved : Int) : Parser LoopHeader := do
  if ← at? .leftBrace then return .clauses none none none
  else if ← eat .semicolon then loopClauses below none
  else
    match ← loopClause below with
    | .range key value define subject => return .range key value define subject
    | .simple first =>
        if ← eat .semicolon then loopClauses below (some (.bare first))
        else
          match first with
          | .expr condition => return .clauses none (some condition) none
          | _ =>
              setLevel saved
              fail .noLoopCondition

/-- A loop. -/
def loop : Parser StmtKind := do
  let _ ← expect .forKw
  let saved ← level
  setLevel (-1)
  match ← loopHeader below saved with
  | .range key value define subject =>
      setLevel saved
      return .range key value define subject (← below .block)
  | .clauses init condition post =>
      setLevel saved
      return .loop init condition post (← below .block)

/-- In both kinds of loop the level is put back before the body is read. -/
theorem loop_eq : loop below = do
    let _ ← expect .forKw
    let saved ← level
    setLevel (-1)
    let header ← loopHeader below saved
    setLevel saved
    match header with
    | .range key value define subject =>
        return .range key value define subject (← below .block)
    | .clauses init condition post =>
        return .loop init condition post (← below .block) := by
  apply bind_congr
  intro _
  apply bind_congr
  intro saved
  apply bind_congr
  intro _
  apply bind_congr
  intro header
  cases header <;> rfl

end GoMend.Grammar
