import GoMend.Proofs.Grammar.Parallel

/-!
# Parsers move forward

A parser takes words off the front of those that remain and never looks at another text.  The
primitive parsers do so, and every way of putting parsers together keeps it.
-/

namespace GoMend

/-- The second state is reached from the first by reading words. -/
structure ParserState.Before (state final : ParserState) : Prop where
  ahead : final.ahead <:+ state.ahead
  lines : final.lines = state.lines

namespace ParserState.Before

variable {state middle final : ParserState}

theorem refl (state : ParserState) : state.Before state :=
  ⟨List.suffix_refl _, rfl⟩

theorem trans (first : state.Before middle) (second : middle.Before final) :
    state.Before final :=
  ⟨second.ahead.trans first.ahead, second.lines.trans first.lines⟩

theorem advance (state : ParserState) : state.Before state.advance := by
  refine ⟨?_, ?_⟩
  · rw [ahead_advance]
    exact List.tail_suffix _
  · unfold ParserState.advance
    split <;> rfl

end ParserState.Before

namespace Parser

open ParserState (Before)

variable {α β : Type}

/-- However the parser ends, it ends in a state that is reached by reading words. -/
class Forward (parser : Parser α) : Prop where
  before : ∀ state, parser.Ends state (fun _ final => state.Before final)
    fun _ final => state.Before final

theorem Forward.of_still {parser : Parser α}
    (still : ∀ state, parser.Ends state (fun _ final => final = state) fun _ final => final = state) :
    Forward parser where
  before state := (still state).mono (fun _ _ same => same ▸ .refl state)
    fun _ _ same => same ▸ .refl state

instance {result : α} : Forward (pure result : Parser α) := .of_still fun _ => rfl

instance {error : SyntaxError} : Forward (throw error : Parser α) := .of_still fun _ => rfl

instance {fault : SyntaxFault} : Forward (fail fault : Parser α) := .of_still fun _ => rfl

instance {fault : SyntaxFault} {offset : Nat} : Forward (failAt fault offset : Parser α) :=
  .of_still fun _ => rfl

theorem Forward.bind {first : Parser α} {next : α → Parser β} [firstForward : Forward first]
    (nextForward : ∀ result, Forward (next result)) : Forward (first >>= next) where
  before state := by
    rw [ends_bind]
    refine (firstForward.before state).mono (fun result middle before => ?_)
      fun _ _ before => before
    exact ((nextForward result).before middle).mono (fun _ _ => before.trans)
      fun _ _ => before.trans

instance {first : Parser α} {next : α → Parser β} [Forward first]
    [∀ result, Forward (next result)] : Forward (first >>= next) :=
  .bind inferInstance

instance {condition : Prop} [Decidable condition] {yes no : Parser α} [Forward yes] [Forward no] :
    Forward (if condition then yes else no) := by
  split <;> infer_instance

instance : Forward (get : Parser ParserState) := .of_still fun _ => rfl

instance : Forward peek := .of_still fun _ => rfl

instance : Forward peekSecond := .of_still fun _ => rfl

instance {kind : Kind} : Forward (at? kind) := .of_still fun _ => rfl

instance {kinds : List Kind} : Forward (atAny kinds) := .of_still fun _ => rfl

instance : Forward bump := ⟨fun state => .advance state⟩

instance {kind : Kind} : Forward (eat kind) where
  before state := ends_eat.2 ⟨fun _ => .advance state, fun _ => .refl state⟩

instance {kind : Kind} : Forward (expect kind) where
  before state := ends_expect.2 ⟨fun _ => .advance state, fun _ => .refl state⟩

instance : Forward expectSemicolon := by
  unfold expectSemicolon
  infer_instance

instance : Forward ident := by
  unfold ident
  infer_instance

instance {parser : Parser α} [forward : Forward parser] : Forward (outcome parser) where
  before state := ends_outcome.2 (forward.before state)

instance : Forward level := .of_still fun _ => rfl

instance {level : Int} : Forward (setLevel level) := ⟨fun _ => ⟨List.suffix_refl _, rfl⟩⟩

instance {enter : Int → Int} {leave : Int → Int → Int} {parser : Parser α}
    [forward : Forward parser] : Forward (atLevel enter leave parser) where
  before state := by
    rw [ends_atLevel]
    exact (forward.before _).mono (fun _ _ before => ⟨before.ahead, before.lines⟩)
      fun _ _ before => ⟨before.ahead, before.lines⟩

instance {parser : Parser α} [Forward parser] : Forward (nested parser) :=
  inferInstanceAs (Forward (atLevel _ _ parser))

instance {parser : Parser α} [Forward parser] : Forward (fresh parser) :=
  inferInstanceAs (Forward (atLevel _ _ parser))

instance : Forward takeDoc := ⟨fun _ => ⟨List.suffix_refl _, rfl⟩⟩

instance : Forward takeTrailing where
  before state := by
    obtain ⟨comment, comments, run⟩ := takeTrailing_run state
    rw [Ends, run]
    exact ⟨List.suffix_refl _, rfl⟩

instance : Forward takeRemaining := ⟨fun _ => ⟨List.suffix_refl _, rfl⟩⟩

theorem Within.advance {source : List Token} {state : ParserState}
    (here : Within source state.ahead) : Within source state.advance.ahead :=
  (Before.advance state).ahead.trans here

/-- A parser that starts within the source ends there. -/
instance {source : List Token} {parser : Parser α} [forward : Forward parser] :
    Stays (Within source) parser where
  stays state here :=
    (forward.before state).mono (fun _ _ before => before.ahead.trans here) fun _ _ _ => trivial

/-- Parsers that are put together from productions which move forward do so. -/
theorem Parallel.forward {left right : Reader} [each : ∀ production, Forward (right production)]
    {first second : Parser α} (parallel : Parallel left right first second) : Forward second := by
  induction parallel with
  | primitive isPrimitive => cases isPrimitive <;> infer_instance
  | below production => exact each production
  | bind _ _ forwardFirst forwardNext => infer_instance
  | atLevel _ _ forwardInner => infer_instance
  | restored level _ _ forwardFirst forwardNext => infer_instance
  | attempt _ _ _ told forwardFirst forwardClosing forwardNext =>
      apply Forward.bind
      intro read
      apply Forward.bind
      intro close
      cases read with
      | ok result => exact forwardNext result
      | error error =>
          rw [(told error).2]
          infer_instance

theorem Forward.of_parallel (below : Reader) [∀ production, Forward (below production)]
    {parser : Parser α} [parallel : Parallel below below parser parser] : Forward parser :=
  parallel.forward

end Parser

namespace Grammar

open GoMend.Parser

-- An instance is put together from one instance for each step of the parser.
set_option synthInstance.maxSize 2000

variable (below : Reader) [∀ production, Forward (below production)]

/-! ## Types -/

instance : Forward typeName := by
  unfold typeName
  infer_instance

instance : Forward (identList below) :=
  .of_parallel below

instance : Forward (identTail below) :=
  .of_parallel below

instance : Forward (paramType below) :=
  .of_parallel below

instance : Forward (params below) :=
  .of_parallel below

instance : Forward (parameters below) :=
  .of_parallel below

instance : Forward (results below) :=
  .of_parallel below

instance : Forward (signature below) :=
  .of_parallel below

instance : Forward (arrayLength below) :=
  .of_parallel below

instance : Forward fieldTag := by
  unfold fieldTag
  infer_instance

instance : Forward (structFieldHead below) :=
  .of_parallel below

instance : Forward (structFields below) :=
  .of_parallel below

instance : Forward (interfaceMemberHead below) :=
  .of_parallel below

instance : Forward (interfaceMembers below) :=
  .of_parallel below

instance {members : Parser (List Field)} [Forward members] : Forward (memberList members) := by
  unfold memberList
  infer_instance

instance : Forward (Grammar.type below) :=
  .of_parallel below

/-! ## Expressions -/

instance : Forward (expr below) :=
  .of_parallel below

instance : Forward (exprList below) :=
  .of_parallel below

instance : Forward (exprTail below) :=
  .of_parallel below

instance (floor : Nat) : Forward (binary below floor) :=
  .of_parallel below

instance (floor : Nat) (left : Expr) : Forward (binaryTail below floor left) :=
  .of_parallel below

instance : Forward (functionBody below) :=
  .of_parallel below

instance (type : Option Expr) : Forward (compositeBody below type) :=
  .of_parallel below

instance : Forward (element below) :=
  .of_parallel below

instance : Forward (elements below) :=
  .of_parallel below

instance : Forward (exprOrType below) :=
  .of_parallel below

instance : Forward (operand below) :=
  .of_parallel below

instance : Forward (unary below) :=
  .of_parallel below

instance : Forward (arguments below) :=
  .of_parallel below

instance (base : Expr) (low : Option Expr) : Forward (sliceBounds below base low) :=
  .of_parallel below

instance (base : Expr) : Forward (indexOrSlice below base) :=
  .of_parallel below

instance (base : Expr) : Forward (selectorOrAssertion below base) :=
  .of_parallel below

instance (base : Expr) : Forward (primaryTail below base) :=
  .of_parallel below

/-! ## Statements -/

instance (first : Expr) (others : List Expr) : Forward (simpleFrom below first others) :=
  .of_parallel below

instance : Forward (simple below) :=
  .of_parallel below

instance : Forward (loopClause below) :=
  .of_parallel below

instance : Forward (block below) :=
  .of_parallel below

instance : Forward (stmts below) :=
  .of_parallel below

instance (saved : Int) : Forward (conditionalHeader below saved) :=
  .of_parallel below

instance : Forward (alternative below) :=
  .of_parallel below

instance : Forward (conditional below) :=
  .of_parallel below

instance : Forward (switchHeader below) :=
  .of_parallel below

instance : Forward (switch below) :=
  .of_parallel below

instance : Forward (caseClauses below) :=
  .of_parallel below

instance : Forward (select below) :=
  .of_parallel below

instance : Forward (commClauses below) :=
  .of_parallel below

instance (init : Option Stmt) : Forward (loopClauses below init) :=
  .of_parallel below

instance (saved : Int) : Forward (loopHeader below saved) :=
  .of_parallel below

instance : Forward (loop below) :=
  .of_parallel below

/-! ## Declarations -/

instance : Forward importName := by
  unfold importName
  refine .bind fun kind => ?_
  split <;> infer_instance

instance (doc : List Comment) : Forward (importSpec doc) := by
  unfold importSpec
  infer_instance

instance (doc : List Comment) : Forward (valueSpec below doc) :=
  .of_parallel below

instance (doc : List Comment) : Forward (typeSpec below doc) :=
  .of_parallel below

instance (keyword : DeclKeyword) (doc : List Comment) : Forward (spec below keyword doc) :=
  .of_parallel below

instance (keyword : DeclKeyword) : Forward (specs below keyword) :=
  .of_parallel below

instance (keyword : DeclKeyword) (doc : List Comment) : Forward (genDecl below keyword doc) :=
  .of_parallel below

instance (doc : List Comment) : Forward (funcDecl below doc) :=
  .of_parallel below

instance : Forward (stmt below) :=
  .of_parallel below

instance : Forward (imports below) :=
  .of_parallel below

instance (doc : List Comment) : Forward (decl below doc) :=
  .of_parallel below

instance : Forward (decls below) :=
  .of_parallel below

instance : Forward (file below) :=
  .of_parallel below

end Grammar

namespace Production

open GoMend.Parser

theorem body_forward (below : Reader) [∀ production, Forward (below production)]
    (production : Production) : Forward (production.body below) := by
  cases production <;> dsimp only [body] <;> infer_instance

/-- Reading any production moves forward. -/
instance read_forward (bound : Nat) (production : Production) :
    Forward (Production.read bound production) := by
  induction bound generalizing production with
  | zero => exact inferInstanceAs (Forward (Parser.fail .exhausted))
  | succ bound ih => exact body_forward (Production.read bound) production

end Production

end GoMend
