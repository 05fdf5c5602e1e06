import GoMend.Proofs.Grammar.Outcome

/-!
# Parsers that are put together alike

Every production is put together from primitive parsers and from the productions below it.  Two
parsers are parallel if they are put together in the same way, the one from the productions of one
reader and the other from those of another.  What all productions have in common is then shown
once, along the steps in which parsers are put together, and not for each production anew.
-/

namespace GoMend

namespace Parser

/-- A parser that reads at most one word and asks no production. -/
class inductive Primitive : {α : Type} → Parser α → Prop
  | pure {α : Type} (result : α) : Primitive (Pure.pure result)
  | fail {α : Type} {fault : SyntaxFault} (told : fault ≠ .exhausted) :
      Primitive (Parser.fail fault : Parser α)
  | failAt {α : Type} {fault : SyntaxFault} (offset : Nat) (told : fault ≠ .exhausted) :
      Primitive (Parser.failAt fault offset : Parser α)
  | get : Primitive (MonadState.get : Parser ParserState)
  | peek : Primitive peek
  | peekSecond : Primitive peekSecond
  | at? (kind : Kind) : Primitive (at? kind)
  | atAny (kinds : List Kind) : Primitive (atAny kinds)
  | bump : Primitive bump
  | eat (kind : Kind) : Primitive (eat kind)
  | expect (kind : Kind) : Primitive (expect kind)
  | takeDoc : Primitive takeDoc
  | takeTrailing : Primitive takeTrailing
  | takeRemaining : Primitive takeRemaining
  /-- The level is set only to be left at once. -/
  | stop {α : Type} {fault : SyntaxFault} (level : Int) (told : fault ≠ .exhausted) :
      Primitive (setLevel level >>= fun _ => (Parser.fail fault : Parser α))

attribute [instance] Primitive.pure Primitive.get Primitive.peek Primitive.peekSecond
  Primitive.at? Primitive.atAny Primitive.bump Primitive.eat Primitive.expect Primitive.takeDoc
  Primitive.takeTrailing Primitive.takeRemaining

section

variable {α : Type} {kind : Kind}

instance : Primitive (fail (.unterminated kind) : Parser α) := .fail nofun

instance : Primitive (fail (.noOperand kind) : Parser α) := .fail nofun

instance : Primitive (fail (.noType kind) : Parser α) := .fail nofun

instance : Primitive (fail (.strayStatement kind) : Parser α) := .fail nofun

instance : Primitive (fail .lateImport : Parser α) := .fail nofun

instance {offset : Nat} : Primitive (failAt .mixedParameters offset : Parser α) :=
  .failAt offset nofun

instance : Primitive (fail .tooManyRangeVariables : Parser α) := .fail nofun

instance : Primitive (fail (.noAssignment kind) : Parser α) := .fail nofun

instance {level : Int} : Primitive (setLevel level >>= fun _ => (fail .noCondition : Parser α)) :=
  .stop level nofun

instance : Primitive (fail (.noAlternative kind) : Parser α) := .fail nofun

instance : Primitive (fail .noSwitchSubject : Parser α) := .fail nofun

instance {level : Int} :
    Primitive (setLevel level >>= fun _ => (fail .noLoopCondition : Parser α)) :=
  .stop level nofun

end

/-- The parsers are put together in the same way, the one from the productions of the left reader
and the other from those of the right one. -/
class inductive Parallel (left right : Reader) : {α : Type} → Parser α → Parser α → Prop
  | primitive {α : Type} {parser : Parser α} (isPrimitive : Primitive parser) :
      Parallel left right parser parser
  | below (production : Production) : Parallel left right (left production) (right production)
  | bind {α β : Type} {first first' : Parser α} {next next' : α → Parser β}
      (parallel : Parallel left right first first')
      (each : ∀ result, Parallel left right (next result) (next' result)) :
      Parallel left right (first >>= next) (first' >>= next')
  /-- A change of the level that is undone if the inner parser leaves the level as it finds it. -/
  | atLevel {α : Type} {inner inner' : Parser α} {enter : Int → Int} {leave : Int → Int → Int}
      (undone : ∀ level, leave level (enter level) = level)
      (parallel : Parallel left right inner inner') :
      Parallel left right (atLevel enter leave inner) (atLevel enter leave inner')
  /-- The level is kept aside, set, and put back behind the first parser. -/
  | restored {α β : Type} {first first' : Int → Parser α} {next next' : α → Parser β} (level : Int)
      (parallel : ∀ saved, Parallel left right (first saved) (first' saved))
      (each : ∀ result, Parallel left right (next result) (next' result)) :
      Parallel left right
        (Parser.level >>= fun saved => setLevel level >>= fun _ =>
          first saved >>= fun result => setLevel saved >>= fun _ => next result)
        (Parser.level >>= fun saved => setLevel level >>= fun _ =>
          first' saved >>= fun result => setLevel saved >>= fun _ => next' result)
  /-- The error of the first parser is told only after the closing has been read. -/
  | attempt {α β γ : Type} {first first' : Parser α} {closing closing' : Parser γ}
      {next next' : Except SyntaxError α → Parser β}
      (parallel : Parallel left right first first')
      (closed : Parallel left right closing closing')
      (each : ∀ result, Parallel left right (next (.ok result)) (next' (.ok result)))
      (told : ∀ error, next (.error error) = throw error ∧ next' (.error error) = throw error) :
      Parallel left right
        (outcome first >>= fun read => closing >>= fun _ => next read)
        (outcome first' >>= fun read => closing' >>= fun _ => next' read)

section

variable {left right : Reader} {α β : Type}

instance {parser : Parser α} [isPrimitive : Primitive parser] :
    Parallel left right parser parser :=
  .primitive isPrimitive

-- What a production reads is computed from it, so instances cannot be found by it.
instance (production : Production) :
    @Parallel left right (no_index production.Result) (left production) (right production) :=
  .below production

theorem Parallel.after {first first' : Parser α} {next next' : α → Parser β}
    [parallel : Parallel left right first first']
    (each : ∀ result, Parallel left right (next result) (next' result)) :
    Parallel left right (first >>= next) (first' >>= next') :=
  .bind parallel each

instance {first first' : Parser α} {next next' : α → Parser β}
    [parallel : Parallel left right first first']
    [each : ∀ result, Parallel left right (next result) (next' result)] :
    Parallel left right (first >>= next) (first' >>= next') :=
  .bind parallel each

instance {first first' : Int → Parser α} {next next' : α → Parser β} {level : Int}
    [parallel : ∀ saved, Parallel left right (first saved) (first' saved)]
    [each : ∀ result, Parallel left right (next result) (next' result)] :
    Parallel left right
      (Parser.level >>= fun saved => setLevel level >>= fun _ =>
        first saved >>= fun result => setLevel saved >>= fun _ => next result)
      (Parser.level >>= fun saved => setLevel level >>= fun _ =>
        first' saved >>= fun result => setLevel saved >>= fun _ => next' result) :=
  .restored level parallel each

instance {condition : Prop} [Decidable condition] {yes no yes' no' : Parser α}
    [Parallel left right yes yes'] [Parallel left right no no'] :
    Parallel left right (if condition then yes else no) (if condition then yes' else no') := by
  split <;> infer_instance

instance {parser parser' : Parser α} [parallel : Parallel left right parser parser'] :
    Parallel left right (nested parser) (nested parser') :=
  .atLevel (fun level => by omega) parallel

instance {parser parser' : Parser α} [parallel : Parallel left right parser parser'] :
    Parallel left right (fresh parser) (fresh parser') :=
  .atLevel (fun _ => rfl) parallel

instance : Parallel left right expectSemicolon expectSemicolon := by
  unfold expectSemicolon
  infer_instance

instance : Parallel left right ident ident := by
  unfold ident
  infer_instance

end

end Parser

namespace Grammar

open GoMend.Parser

-- An instance is put together from one instance for each step of the parser.
set_option synthInstance.maxSize 2000

variable (left right : Reader)

/-! ## Types -/

instance : Parallel left right typeName typeName := by
  unfold typeName
  infer_instance

instance : Parallel left right (identList left) (identList right) := by
  unfold identList
  infer_instance

instance : Parallel left right (identTail left) (identTail right) := by
  unfold identTail
  infer_instance

instance : Parallel left right (paramType left) (paramType right) := by
  unfold paramType
  infer_instance

instance : Parallel left right (params left) (params right) := by
  unfold params
  dsimp only
  infer_instance

instance : Parallel left right (parameters left) (parameters right) := by
  unfold parameters
  refine .after fun _ => .restored 0 (fun _ => .below .params) fun entries => ?_
  refine .after fun close => ?_
  split <;> infer_instance

instance : Parallel left right (results left) (results right) := by
  unfold results
  infer_instance

instance : Parallel left right (signature left) (signature right) := by
  unfold signature
  infer_instance

/-- What is read between brackets, if the error of the inner parser is told behind them. -/
instance parallel_attempt {inner inner' : Parser Expr} {closing : Parser Token}
    {next next' : Expr → Parser ArrayLength}
    [parallel : Parallel left right inner inner'] [Primitive closing]
    [each : ∀ size, Parallel left right (next size) (next' size)] :
    Parallel left right
      (do
        let size ← outcome inner
        let _ ← closing
        match size with
        | .ok size => next size
        | .error error => throw error)
      (do
        let size ← outcome inner'
        let _ ← closing
        match size with
        | .ok size => next' size
        | .error error => throw error) :=
  .attempt parallel inferInstance each fun _ => ⟨rfl, rfl⟩

instance : Parallel left right (arrayLength left) (arrayLength right) := by
  unfold arrayLength
  infer_instance

instance : Parallel left right fieldTag fieldTag := by
  unfold fieldTag
  infer_instance

instance : Parallel left right (structFieldHead left) (structFieldHead right) := by
  unfold structFieldHead
  infer_instance

instance : Parallel left right (structFields left) (structFields right) := by
  unfold structFields
  infer_instance

instance : Parallel left right (interfaceMemberHead left) (interfaceMemberHead right) := by
  unfold interfaceMemberHead
  infer_instance

instance : Parallel left right (interfaceMembers left) (interfaceMembers right) := by
  unfold interfaceMembers
  infer_instance

instance {members members' : Parser (List Field)} [Parallel left right members members'] :
    Parallel left right (memberList members) (memberList members') := by
  unfold memberList
  infer_instance

instance : Parallel left right (Grammar.type left) (Grammar.type right) := by
  unfold Grammar.type
  refine .after fun kind => ?_
  split
  all_goals infer_instance

/-! ## Expressions -/

instance : Parallel left right (expr left) (expr right) := by
  unfold expr
  infer_instance

instance : Parallel left right (exprList left) (exprList right) := by
  unfold exprList
  infer_instance

instance : Parallel left right (exprTail left) (exprTail right) := by
  unfold exprTail
  infer_instance

instance (floor : Nat) : Parallel left right (binary left floor) (binary right floor) := by
  unfold binary
  infer_instance

instance (floor : Nat) (operand : Expr) :
    Parallel left right (binaryTail left floor operand) (binaryTail right floor operand) := by
  unfold binaryTail
  refine .after fun kind => ?_
  split <;> infer_instance

instance : Parallel left right (functionBody left) (functionBody right) := by
  unfold functionBody
  infer_instance

instance (type : Option Expr) :
    Parallel left right (compositeBody left type) (compositeBody right type) := by
  unfold compositeBody
  infer_instance

instance : Parallel left right (element left) (element right) := by
  unfold element
  infer_instance

instance : Parallel left right (elements left) (elements right) := by
  unfold elements
  dsimp only
  infer_instance

instance : Parallel left right (exprOrType left) (exprOrType right) := by
  unfold exprOrType
  infer_instance

instance : Parallel left right (operand left) (operand right) := by
  unfold operand
  refine .after fun kind => ?_
  split
  case h_9 => split <;> infer_instance
  all_goals infer_instance

instance : Parallel left right (unary left) (unary right) := by
  unfold unary
  refine .after fun kind => ?_
  split
  · infer_instance
  · refine .after fun second => ?_
    split
    · infer_instance
    · split <;> infer_instance

instance : Parallel left right (arguments left) (arguments right) := by
  unfold arguments
  infer_instance

instance (base : Expr) (low : Option Expr) :
    Parallel left right (sliceBounds left base low) (sliceBounds right base low) := by
  unfold sliceBounds
  dsimp only
  infer_instance

instance (base : Expr) :
    Parallel left right (indexOrSlice left base) (indexOrSlice right base) := by
  unfold indexOrSlice
  infer_instance

instance (base : Expr) :
    Parallel left right (selectorOrAssertion left base) (selectorOrAssertion right base) := by
  unfold selectorOrAssertion
  dsimp only
  infer_instance

instance (base : Expr) : Parallel left right (primaryTail left base) (primaryTail right base) := by
  unfold primaryTail
  refine .after fun kind => ?_
  split <;> infer_instance

/-! ## Statements -/

instance (first : Expr) (others : List Expr) :
    Parallel left right (simpleFrom left first others) (simpleFrom right first others) := by
  unfold simpleFrom
  refine .after fun kind => ?_
  split
  · infer_instance
  · split
    · infer_instance
    · split <;> infer_instance

instance : Parallel left right (simple left) (simple right) := by
  unfold simple
  infer_instance

instance : Parallel left right (loopClause left) (loopClause right) := by
  unfold loopClause
  infer_instance

instance : Parallel left right (block left) (block right) := by
  unfold block
  infer_instance

instance : Parallel left right (stmts left) (stmts right) := by
  unfold stmts
  dsimp only
  infer_instance

instance (saved : Int) :
    Parallel left right (conditionalHeader left saved) (conditionalHeader right saved) := by
  unfold conditionalHeader
  refine .after fun first => .after fun hasInit => ?_
  split
  · infer_instance
  · split <;> infer_instance

instance : Parallel left right (alternative left) (alternative right) := by
  unfold alternative
  refine .after fun isAlternative => ?_
  split
  · refine .after fun kind => ?_
    split <;> infer_instance
  · infer_instance

instance : Parallel left right (conditional left) (conditional right) := by
  unfold conditional
  infer_instance

instance : Parallel left right (switchHeader left) (switchHeader right) := by
  unfold switchHeader
  dsimp only
  infer_instance

instance : Parallel left right (switch left) (switch right) := by
  unfold switch
  refine .after fun _ => .restored (-1) (fun _ => inferInstance) fun header => ?_
  refine .after fun _ => .after fun clauses => .after fun _ => ?_
  split <;> infer_instance

instance : Parallel left right (caseClauses left) (caseClauses right) := by
  unfold caseClauses
  dsimp only
  infer_instance

instance : Parallel left right (select left) (select right) := by
  unfold select
  infer_instance

instance : Parallel left right (commClauses left) (commClauses right) := by
  unfold commClauses
  dsimp only
  infer_instance

instance (init : Option Stmt) :
    Parallel left right (loopClauses left init) (loopClauses right init) := by
  unfold loopClauses
  dsimp only
  infer_instance

instance (saved : Int) : Parallel left right (loopHeader left saved) (loopHeader right saved) := by
  unfold loopHeader
  refine .after fun atBlock => ?_
  split
  · infer_instance
  · refine .after fun noInit => ?_
    split
    · infer_instance
    · refine .after fun clause => ?_
      split
      · infer_instance
      · refine .after fun hasClauses => ?_
        split
        · infer_instance
        · split <;> infer_instance

instance : Parallel left right (loop left) (loop right) := by
  rw [loop_eq, loop_eq]
  refine .after fun _ => .restored (-1) (fun saved => inferInstance) fun header => ?_
  split <;> infer_instance

/-! ## Declarations -/

instance : Parallel left right importName importName := by
  unfold importName
  refine .after fun kind => ?_
  split <;> infer_instance

instance (doc : List Comment) : Parallel left right (importSpec doc) (importSpec doc) := by
  unfold importSpec
  infer_instance

instance (doc : List Comment) : Parallel left right (valueSpec left doc) (valueSpec right doc) := by
  unfold valueSpec
  dsimp only
  infer_instance

instance (doc : List Comment) : Parallel left right (typeSpec left doc) (typeSpec right doc) := by
  unfold typeSpec
  infer_instance

instance (keyword : DeclKeyword) (doc : List Comment) :
    Parallel left right (spec left keyword doc) (spec right keyword doc) := by
  unfold spec
  split <;> infer_instance

instance (keyword : DeclKeyword) :
    Parallel left right (specs left keyword) (specs right keyword) := by
  unfold specs
  infer_instance

instance (keyword : DeclKeyword) (doc : List Comment) :
    Parallel left right (genDecl left keyword doc) (genDecl right keyword doc) := by
  unfold genDecl
  infer_instance

instance (doc : List Comment) : Parallel left right (funcDecl left doc) (funcDecl right doc) := by
  unfold funcDecl
  dsimp only
  infer_instance

instance : Parallel left right (stmt left) (stmt right) := by
  unfold stmt
  refine .after fun kind => ?_
  split <;> infer_instance

instance : Parallel left right (imports left) (imports right) := by
  unfold imports
  infer_instance

instance (doc : List Comment) : Parallel left right (decl left doc) (decl right doc) := by
  unfold decl
  refine .after fun kind => ?_
  split <;> infer_instance

instance : Parallel left right (decls left) (decls right) := by
  unfold decls
  infer_instance

instance : Parallel left right (file left) (file right) := by
  unfold file
  infer_instance

end Grammar

end GoMend
