import GoMend.Grammar.Reading
import GoMend.Proofs.Parens.Continued

/-!
# Productions before further words

What a production reads before the last word of a text, it also reads where more words follow, and
with a larger bound on the nesting.  Two readers stand for the two bounds.
-/

namespace GoMend

namespace Grammar

open GoMend.Parser

-- An instance is put together from one instance for each step of the parser.
set_option synthInstance.maxSize 2000

variable {more : Closing} (below below' : Reader)
  [∀ production, Carries more (below production) (below' production)]
  [∀ production, Steady (below production)] [∀ production, Steady (below' production)]

/-! ## Types -/

instance : Carries more typeName typeName := by
  unfold typeName
  infer_instance

instance : Carries more (identList below) (identList below') := by
  unfold identList
  infer_instance

instance : Carries more (identTail below) (identTail below') := by
  unfold identTail
  infer_instance

instance : Carries more (paramType below) (paramType below') := by
  unfold paramType
  infer_instance

instance : Carries more (params below) (params below') := by
  unfold params
  dsimp only
  infer_instance

instance : Carries more (parameters below) (parameters below') := by
  unfold parameters
  refine .bind fun _ => .restored (fun _ _ => inferInstance) fun entries => ?_
  refine .bind fun close => ?_
  split <;> infer_instance

instance : Carries more (results below) (results below') := by
  unfold results
  infer_instance

instance : Carries more (signature below) (signature below') := by
  unfold signature
  infer_instance

instance : Carries more (arrayLength below) (arrayLength below') := by
  unfold arrayLength
  refine .bind fun _ => .bind fun isSlice => ?_
  split
  · infer_instance
  · refine .bind fun isInferred => ?_
    split
    · infer_instance
    · exact .outcome (by simp)

instance : Carries more fieldTag fieldTag := by
  unfold fieldTag
  infer_instance

instance : Carries more (structFieldHead below) (structFieldHead below') := by
  unfold structFieldHead
  exact .bind fun first => .peekSecond inferInstance (by simp)

instance : Carries more (structFields below) (structFields below') := by
  unfold structFields
  infer_instance

instance : Carries more (interfaceMemberHead below) (interfaceMemberHead below') := by
  unfold interfaceMemberHead
  exact .bind fun first => .peekSecond inferInstance (by simp)

instance : Carries more (interfaceMembers below) (interfaceMembers below') := by
  unfold interfaceMembers
  infer_instance

instance {members members' : Parser (List Field)} [Carries more members members'] :
    Carries more (memberList members) (memberList members') := by
  unfold memberList
  infer_instance

instance : Carries more (Grammar.type below) (Grammar.type below') := by
  unfold Grammar.type
  refine .bind fun kind => ?_
  split
  all_goals infer_instance

/-! ## Expressions -/

instance : Carries more (expr below) (expr below') := by
  unfold expr
  infer_instance

instance : Carries more (exprList below) (exprList below') := by
  unfold exprList
  infer_instance

instance : Carries more (exprTail below) (exprTail below') := by
  unfold exprTail
  infer_instance

instance (floor : Nat) : Carries more (binary below floor) (binary below' floor) := by
  unfold binary
  infer_instance

instance (floor : Nat) (left : Expr) :
    Carries more (binaryTail below floor left) (binaryTail below' floor left) := by
  unfold binaryTail
  refine .bind fun kind => ?_
  split <;> infer_instance

instance : Carries more (functionBody below) (functionBody below') := by
  unfold functionBody
  infer_instance

instance (type : Option Expr) :
    Carries more (compositeBody below type) (compositeBody below' type) := by
  unfold compositeBody
  refine .bind fun opening => .bind fun elements => .bind fun close => .get fun _ _ continues => ?_
  rw [continues.lines]
  infer_instance

instance : Carries more (element below) (element below') := by
  unfold element
  infer_instance

instance : Carries more (elements below) (elements below') := by
  unfold elements
  dsimp only
  infer_instance

instance : Carries more (exprOrType below) (exprOrType below') := by
  unfold exprOrType
  infer_instance

instance : Steady (exprOrType below) :=
  (Rule.exprOrType : Rule below (exprOrType below)).steady

instance (base : Expr) : Steady (indexOrSlice below base) :=
  (Rule.indexOrSlice base : Rule below (indexOrSlice below base)).steady

instance : Carries more (operand below) (operand below') := by
  unfold operand
  refine .bind fun kind => ?_
  split
  case h_9 => split <;> infer_instance
  all_goals infer_instance

instance : Carries more (unary below) (unary below') := by
  unfold unary
  refine .bind fun kind => ?_
  split
  · infer_instance
  · refine .peekSecond (fun second => ?_) (by simp)
    split
    · infer_instance
    · split <;> infer_instance

instance : Carries more (arguments below) (arguments below') := by
  unfold arguments
  infer_instance

instance (base : Expr) (low : Option Expr) :
    Carries more (sliceBounds below base low) (sliceBounds below' base low) := by
  unfold sliceBounds
  dsimp only
  infer_instance

instance (base : Expr) : Carries more (indexOrSlice below base) (indexOrSlice below' base) := by
  unfold indexOrSlice
  infer_instance

instance (base : Expr) :
    Carries more (selectorOrAssertion below base) (selectorOrAssertion below' base) := by
  unfold selectorOrAssertion
  dsimp only
  infer_instance

instance (base : Expr) : Carries more (primaryTail below base) (primaryTail below' base) := by
  unfold primaryTail
  refine .bind fun kind => ?_
  split
  case h_4 =>
    refine .get fun state state' continues => ?_
    rw [decide_eq_decide.2 continues.free_iff]
    infer_instance
  all_goals infer_instance

/-! ## Statements -/

instance (first : Expr) (others : List Expr) :
    Carries more (simpleFrom below first others) (simpleFrom below' first others) := by
  unfold simpleFrom
  refine .bind fun kind => ?_
  split
  · infer_instance
  · split
    · infer_instance
    · split <;> infer_instance

instance : Carries more (simple below) (simple below') := by
  unfold simple
  infer_instance

instance : Carries more (loopClause below) (loopClause below') := by
  unfold loopClause
  refine .bind fun ranged => ?_
  split
  · infer_instance
  · exact .bind fun first => .bind fun others => .bind fun assigns =>
      .peekSecond inferInstance (by simp)

instance : Carries more (block below) (block below') := by
  unfold block
  infer_instance

instance : Carries more (stmts below) (stmts below') := by
  unfold stmts
  dsimp only
  infer_instance

instance (saved saved' : Int) :
    Carries more (conditionalHeader below saved) (conditionalHeader below' saved') := by
  unfold conditionalHeader
  refine .bind fun first => .bind fun hasInit => ?_
  split
  · infer_instance
  · split <;> infer_instance

instance : Carries more (alternative below) (alternative below') := by
  unfold alternative
  refine .bind fun isAlternative => ?_
  split
  · refine .bind fun kind => ?_
    split <;> infer_instance
  · infer_instance

instance : Carries more (conditional below) (conditional below') := by
  unfold conditional
  infer_instance

instance : Carries more (switchHeader below) (switchHeader below') := by
  unfold switchHeader
  dsimp only
  infer_instance

instance : Carries more (switch below) (switch below') := by
  unfold switch
  refine .bind fun _ => .restored (fun _ _ => inferInstance) fun header => ?_
  refine .bind fun _ => .bind fun clauses => .bind fun _ => ?_
  split <;> infer_instance

instance : Carries more (caseClauses below) (caseClauses below') := by
  unfold caseClauses
  dsimp only
  infer_instance

instance : Carries more (select below) (select below') := by
  unfold select
  infer_instance

instance : Carries more (commClauses below) (commClauses below') := by
  unfold commClauses
  dsimp only
  infer_instance

instance (init : Option Stmt) :
    Carries more (loopClauses below init) (loopClauses below' init) := by
  unfold loopClauses
  dsimp only
  infer_instance

instance (saved saved' : Int) :
    Carries more (loopHeader below saved) (loopHeader below' saved') := by
  unfold loopHeader
  refine .bind fun atBlock => ?_
  split
  · infer_instance
  · refine .bind fun noInit => ?_
    split
    · infer_instance
    · refine .bind fun clause => ?_
      split
      · infer_instance
      · refine .bind fun hasClauses => ?_
        split
        · infer_instance
        · split <;> infer_instance

instance : Carries more (loop below) (loop below') := by
  rw [loop_eq, loop_eq]
  refine .bind fun _ => .restored (fun _ _ => inferInstance) fun header => ?_
  split <;> infer_instance

/-! ## Declarations -/

instance : Carries more importName importName := by
  unfold importName
  refine .bind fun kind => ?_
  split <;> infer_instance

instance (doc : List Comment) : Carries more (importSpec doc) (importSpec doc) := by
  unfold importSpec
  infer_instance

instance (doc : List Comment) : Carries more (valueSpec below doc) (valueSpec below' doc) := by
  unfold valueSpec
  dsimp only
  infer_instance

instance (doc : List Comment) : Carries more (typeSpec below doc) (typeSpec below' doc) := by
  unfold typeSpec
  infer_instance

instance (keyword : DeclKeyword) (doc : List Comment) :
    Carries more (spec below keyword doc) (spec below' keyword doc) := by
  unfold spec
  split <;> infer_instance

instance (keyword : DeclKeyword) : Carries more (specs below keyword) (specs below' keyword) := by
  unfold specs
  infer_instance

instance (keyword : DeclKeyword) (doc : List Comment) :
    Carries more (genDecl below keyword doc) (genDecl below' keyword doc) := by
  unfold genDecl
  infer_instance

instance (doc : List Comment) : Carries more (funcDecl below doc) (funcDecl below' doc) := by
  unfold funcDecl
  dsimp only
  infer_instance

instance : Carries more (stmt below) (stmt below') := by
  unfold stmt
  refine .bind fun kind => ?_
  split
  case h_16 => exact .peekSecond inferInstance (by simp)
  all_goals infer_instance

instance : Carries more (imports below) (imports below') := by
  unfold imports
  infer_instance

instance (doc : List Comment) : Carries more (decl below doc) (decl below' doc) := by
  unfold decl
  refine .bind fun kind => ?_
  split <;> infer_instance

instance : Carries more (decls below) (decls below') := by
  unfold decls
  infer_instance

end Grammar

namespace Production

open GoMend.Parser

variable {more : Closing}

theorem body_carries (below below' : Reader)
    [∀ production, Carries more (below production) (below' production)]
    [∀ production, Steady (below production)] [∀ production, Steady (below' production)]
    (production : Production) :
    Carries more (production.body below) (production.body below') := by
  cases production <;> dsimp only [body] <;> infer_instance

/-- A reader carries what it reads over to any reader whose bound is as large. -/
theorem read_carries {bound bound' : Nat} (deeper : bound ≤ bound') (production : Production) :
    Carries more (read bound production) (read bound' production) := by
  induction bound generalizing bound' production with
  | zero => exact ⟨inferInstance, .of_fails fun _ => trivial⟩
  | succ bound ih =>
      obtain ⟨bound', rfl⟩ := Nat.exists_eq_add_of_lt deeper
      have (production : Production) :
          Carries more (read bound production) (read (bound + bound') production) :=
        ih (Nat.le_add_right _ _) production
      exact body_carries (read bound) (read (bound + bound')) production

end Production

end GoMend
