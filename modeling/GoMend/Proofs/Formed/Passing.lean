import GoMend.Proofs.Formed.Keywords
import GoMend.Proofs.Formed.Signatures

/-!
# Heads in expressions

Wherever a production takes the keyword of a function, a signature is read behind it, and the words
that it is read from make the head of the function in the tree.  Here this is shown for types and
expressions, given that it holds of the productions below.
-/

namespace GoMend

open GoMend.Parser

/-! ## What a production passes -/

namespace Production

/-- The heads in what was read before the production began. -/
def heldHeads : Production → List Head
  | .binaryTail _ left => left.heads
  | .primaryTail operand => operand.heads
  | _ => []

/-- The heads in the entries of a list of parameters. -/
@[simp] def entryHeads : List (Expr × Option Expr) → List Head
  | [] => []
  | (first, behind) :: rest => first.heads ++ behind.elim [] (·.heads) ++ entryHeads rest

/-- The heads in what the production reads. -/
@[simp] def heads : (production : Production) → production.Result → List Head
  | .binary _, (expr : Expr) => expr.heads
  | .binaryTail _ _, (expr : Expr) => expr.heads
  | .unary, (expr : Expr) => expr.heads
  | .primaryTail _, (expr : Expr) => expr.heads
  | .exprTail, exprs => Expr.headsAll exprs
  | .arguments, (exprs, _) => Expr.headsAll exprs
  | .elements, exprs => Expr.headsAll exprs
  | .element, (expr : Expr) => expr.heads
  | .type, (expr : Expr) => expr.heads
  | .params, entries => entryHeads entries
  | .structFields, fields => Field.headsAll false fields
  | .interfaceMembers, fields => Field.headsAll true fields
  | .block, (body : Block) => body.heads
  | .stmts, (body : List Stmt) => Stmt.headsAll body
  | .stmt, (kind : StmtKind) => kind.heads
  | .conditional, (kind : StmtKind) => kind.heads
  | .caseClauses, clauses => CaseClause.headsAll clauses
  | .commClauses, clauses => CommClause.headsAll clauses
  | .identTail, _ => []
  | .specs _, entries => Spec.headsAll entries
  | .imports, (list : List Decl) => list.flatMap (·.heads)
  | .decls, (list : List Decl) => list.flatMap (·.heads)

end Production

/-- The productions of the reader all pass the heads of what they read. -/
structure Reader.PassesHeads (below : Reader) : Prop where
  isRead : ∃ bound, below = Production.read bound
  each : ∀ production, (below production).Passes Anything production.heldHeads production.heads

namespace Grammar

variable {below : Reader} (passes : below.PassesHeads)

/-! ## Types -/

theorem passes_typeName : typeName.Passes Anything [] Expr.heads := by
  apply Passes.ident
  intro name
  apply Passes.eat (by decide)
  intro qualified
  apply Passes.ite
  · exact Passes.ident fun _ => .pure rfl
  · exact .pure rfl

include passes

theorem passes_expr : (expr below).Passes Anything [] Expr.heads :=
  passes.each (.binary 1)

theorem passes_type_below : (below .type).Passes Anything [] Expr.heads :=
  passes.each .type

theorem passes_identTail : (identTail below).Passes Anything [] fun _ => [] := by
  apply Passes.eat (by decide)
  intro more
  apply Passes.ite
  · apply Passes.ident
    intro name
    apply (passes.each .identTail).bind
    intro others
    exact .pure rfl
  · exact .pure rfl

theorem passes_identList : (identList below).Passes Anything [] fun _ => [] := by
  apply Passes.ident
  intro first
  apply (passes.each .identTail).bind
  intro others
  exact .pure rfl

theorem passes_paramType : (paramType below).Passes Anything [] Expr.heads := by
  apply Passes.eat (by decide)
  intro many
  apply Passes.ite
  · apply (passes_type_below passes).bind
    intro type
    exact .pure rfl
  · exact passes_type_below passes

theorem passes_params : (params below).Passes Anything [] Production.entryHeads := by
  have further : ∀ entry : Expr × Option Expr, (do
      if ← eat .comma then return entry :: (← below .params)
      else return [entry] : Parser (List (Expr × Option Expr))).Passes Anything
        (Production.entryHeads [entry]) Production.entryHeads := by
    intro entry
    apply Passes.eat (by decide)
    intro more
    apply Passes.ite
    · apply (passes.each .params).bind
      intro rest
      exact .pure (by simp)
    · exact .pure rfl
  apply Passes.after
  intro ends
  apply Passes.ite
  · exact .pure rfl
  · apply (passes_paramType passes).bind
    intro first
    apply Passes.after
    intro single
    apply Passes.ite
    · exact (further (first, none)).relist (by simp)
    · apply (passes_paramType passes).bind
      intro type
      exact (further (first, some type)).relist (by simp)

omit passes in
theorem Groups.heads {pending : List Ident} {entries : List (Expr × Option Expr)}
    {fields : List Field} (groups : Groups pending entries fields) :
    Field.headsAll false fields = Production.entryHeads entries := by
  induction groups with
  | nil => rfl
  | wait name _ ih => exact ih
  | take pending name type _ ih => simp [namedField, ih]

omit passes in
theorem heads_groupParams? {entries : List (Expr × Option Expr)} {fields : List Field}
    (grouped : groupParams? entries = some fields) :
    Field.headsAll false fields = Production.entryHeads entries := by
  rw [groupParams?] at grouped
  split at grouped
  · exact (groups_of_groupNamed? grouped).heads
  · rename_i unnamed
    cases grouped
    induction entries with
    | nil => rfl
    | cons entry rest ih =>
        obtain ⟨first, type⟩ := entry
        simp only [List.any_cons, Bool.or_eq_true, not_or] at unnamed
        cases type with
        | some type => exact absurd rfl unnamed.1
        | none => simpa [unnamedField] using ih unnamed.2

theorem passes_parameters :
    (parameters below).Passes Anything [] (FieldList.heads false) := by
  apply Passes.expect (by decide)
  intro opening
  apply Passes.after
  intro saved
  apply Passes.after
  intro _
  apply (passes.each .params).bind
  intro entries
  apply Passes.after
  intro _
  apply Passes.expect (by decide)
  intro close
  split
  · rename_i fields grouped
    exact .pure (heads_groupParams? grouped)
  · exact .failAt

theorem passes_results :
    (results below).Passes Anything [] fun results => results.elim [] (·.heads false) := by
  apply Passes.after
  intro listed
  apply Passes.ite
  · apply (passes_parameters passes).bind
    intro list
    exact .pure rfl
  · apply Passes.peek
    intro kind
    apply Passes.ite
    · apply (passes_type_below passes).bind
      intro type
      exact .pure (by simp [unnamedField])
    · exact .pure rfl

theorem passes_signature : (signature below).Passes Anything [] Signature.heads := by
  apply (passes_parameters passes).bind
  intro params
  apply (passes_results passes).bind
  intro results
  apply Passes.pure
  cases results <;> simp

/-- The keyword of a function passes the signature that stands behind it. -/
theorem passes_anonymous {α : Type} {next : Signature → Parser α} {held : List Head}
    {heads : α → List Head}
    (each : ∀ signature : Signature, (next signature).Passes Anything
      (held ++ .anonymous signature :: signature.heads) heads) :
    (bump >>= fun _ => signature below >>= next).Passes (· = .funcKw) held heads := by
  obtain ⟨bound, rfl⟩ := passes.isRead
  intro state isKeyword
  obtain ⟨keyword, begins, ahead⟩ := ParserState.ahead_of_kind isKeyword (by decide)
  rw [Ensures, ends_bind, ends_bump, ends_bind]
  apply ((madeOf_signature bound state.advance).and
    (passes_signature passes state.advance trivial)).weaken
  rintro signature middle ⟨⟨words, behind, made⟩, inner, same, passed⟩
  rw [List.nil_append] at same
  apply (each signature middle trivial).weaken
  rintro result final ⟨read, all, further⟩
  refine ⟨.anonymous signature :: inner ++ read, ?_, ?_⟩
  · rw [all, same, List.append_assoc, List.cons_append]
  · rw [ahead]
    have own : Head.Begins state.advance.ahead (.anonymous signature) :=
      ⟨words, ⟨_, behind.symm⟩, .anonymous made⟩
    exact (Heads.keyword begins own passed).trans further

theorem passes_arrayLength : (arrayLength below).Passes Anything [] ArrayLength.heads := by
  apply Passes.expect (by decide)
  intro opening
  apply Passes.eat (by decide)
  intro isSlice
  apply Passes.ite
  · exact .pure rfl
  · apply Passes.eat (by decide)
    intro isInferred
    apply Passes.ite
    · exact .expect (by decide) fun _ => .pure rfl
    · exact .attempt (passes_expr passes).nested (by decide) (fun _ => .pure rfl) fun _ => rfl

omit passes in
theorem passes_fieldTag : fieldTag.Passes Anything [] fun _ => [] := by
  apply Passes.at?
  · apply Passes.bump
    · rintro kind rfl
      decide
    · exact fun _ => .pure rfl
  · exact .pure rfl

theorem passes_structFieldHead :
    (structFieldHead below).Passes Anything [] fun head => head.2.heads := by
  apply Passes.peek
  intro first
  apply Passes.after
  intro second
  split
  · rename_i isStar
    apply Passes.bump
    · rintro kind rfl
      rw [isStar]
      decide
    · intro _
      apply passes_typeName.bind
      intro name
      exact .pure rfl
  · split
    · apply passes_typeName.bind
      intro name
      exact .pure rfl
    · apply (passes_identList passes).bind
      intro names
      apply (passes_type_below passes).bind
      intro type
      exact .pure rfl

theorem passes_structFields :
    (structFields below).Passes Anything [] (Field.headsAll false) := by
  apply Passes.after
  intro ends
  apply Passes.ite
  · exact .pure rfl
  · apply Passes.after
    intro doc
    apply (passes_structFieldHead passes).bind
    intro head
    apply passes_fieldTag.bind
    intro tag
    apply Passes.after
    intro comment
    apply Passes.expectSemicolon
    apply (passes.each .structFields).bind
    intro rest
    exact .pure (by simp)

/-- A method has its signature behind its name, so no keyword stands there. -/
theorem passes_interfaceMemberHead :
    (interfaceMemberHead below).Passes Anything [] fun head =>
      if head.1.isEmpty then head.2.heads else head.2.heads.tail := by
  apply Passes.peek
  intro first
  apply Passes.after
  intro second
  apply Passes.ite
  · apply Passes.ident
    intro name
    apply (passes_signature passes).bind
    intro signature
    exact .pure rfl
  · apply (passes_type_below passes).bind
    intro type
    exact .pure rfl

theorem passes_interfaceMembers :
    (interfaceMembers below).Passes Anything [] (Field.headsAll true) := by
  apply Passes.after
  intro ends
  apply Passes.ite
  · exact .pure rfl
  · apply Passes.after
    intro doc
    apply (passes_interfaceMemberHead passes).bind
    intro head
    apply Passes.after
    intro comment
    apply Passes.expectSemicolon
    apply (passes.each .interfaceMembers).bind
    intro rest
    apply Passes.pure
    cases head.1 <;> simp

omit passes in
theorem passes_memberList {members : Parser (List Field)} {methods : Bool}
    (each : members.Passes Anything [] (Field.headsAll methods)) :
    (memberList members).Passes Anything [] (FieldList.heads methods) := by
  apply Passes.expect (by decide)
  intro opening
  apply each.bind
  intro fields
  apply Passes.after
  intro closing
  exact .expect (by decide) fun _ => .pure rfl

theorem passes_type : (type below).Passes Anything [] Expr.heads := by
  -- the next word is told, and it is no keyword of a function but in one case
  apply Passes.peek
  intro kind
  split
  · exact passes_typeName.anywhere
  · exact .bumped (by decide) fun _ => (passes_type_below passes).bind fun _ => .pure rfl
  · apply (passes_arrayLength passes).bind
    intro length
    apply (passes_type_below passes).bind
    intro element
    exact .pure rfl
  · apply Passes.bumped (by decide)
    intro word
    apply Passes.expect (by decide)
    intro opening
    apply (passes_type_below passes).bind
    intro key
    apply Passes.expect (by decide)
    intro close
    apply (passes_type_below passes).bind
    intro value
    exact .pure rfl
  · apply Passes.bumped (by decide)
    intro word
    apply Passes.eat (by decide)
    intro sends
    apply (passes_type_below passes).bind
    intro element
    exact .pure rfl
  · apply Passes.bumped (by decide)
    intro word
    apply Passes.expect (by decide)
    intro word
    apply (passes_type_below passes).bind
    intro element
    exact .pure rfl
  · exact passes_anonymous passes fun signature => .pure rfl
  · apply Passes.bumped (by decide)
    intro word
    apply (passes_memberList (passes.each .structFields)).bind
    intro fields
    exact .pure rfl
  · apply Passes.bumped (by decide)
    intro word
    apply (passes_memberList (passes.each .interfaceMembers)).bind
    intro methods
    exact .pure rfl
  · apply Passes.bumped (by decide)
    intro word
    apply (passes_type_below passes).bind
    intro inner
    exact .expect (by decide) fun _ => .pure rfl
  · exact .fail

/-! ## Expressions -/

theorem passes_exprTail : (exprTail below).Passes Anything [] Expr.headsAll := by
  apply Passes.eat (by decide)
  intro more
  apply Passes.ite
  · apply (passes_expr passes).bind
    intro next
    apply (passes.each .exprTail).bind
    intro rest
    exact .pure rfl
  · exact .pure rfl

theorem passes_exprList : (exprList below).Passes Anything [] Expr.headsAll := by
  apply (passes_expr passes).bind
  intro first
  apply (passes.each .exprTail).bind
  intro rest
  exact .pure rfl

theorem passes_binary (floor : Nat) : (binary below floor).Passes Anything [] Expr.heads := by
  apply (passes.each .unary).bind
  intro left
  exact passes.each (.binaryTail floor left)

theorem passes_binaryTail (floor : Nat) (left : Expr) :
    (binaryTail below floor left).Passes Anything left.heads Expr.heads := by
  apply Passes.peek
  intro kind
  split
  · rename_i op isOp
    apply Passes.ite
    · exact .pure rfl
    · apply Passes.bump
      · rintro _ rfl isKeyword
        rw [isKeyword] at isOp
        cases isOp
      · intro _
        apply (passes.each (.binary (op.precedence + 1))).bind
        intro right
        exact passes.each (.binaryTail floor (.binary left op right))
  · exact .pure rfl

theorem passes_functionBody : (functionBody below).Passes Anything [] Block.heads :=
  (passes.each .block).fresh

/-- The braces of a composite literal, behind the type of the literal if there is one. -/
theorem passes_compositeBody (type : Option Expr) :
    (compositeBody below type).Passes Anything (type.elim [] (·.heads)) Expr.heads := by
  apply Passes.expect (by decide)
  intro opening
  apply (passes.each .elements).fresh.bind
  intro elements
  apply Passes.expect (by decide)
  intro close
  apply Passes.after
  intro lines
  apply Passes.pure
  cases type <;> rfl

theorem passes_element : (element below).Passes Anything [] Expr.heads := by
  apply Passes.after
  intro untyped
  apply Passes.ite
  · exact passes_compositeBody passes none
  · exact passes_expr passes

theorem passes_elements : (elements below).Passes Anything [] Expr.headsAll := by
  have further : ∀ item : Expr, (do
      if ← eat .comma then return item :: (← below .elements)
      else return [item] : Parser (List Expr)).Passes Anything item.heads Expr.headsAll := by
    intro item
    apply Passes.eat (by decide)
    intro more
    apply Passes.ite
    · apply (passes.each .elements).bind
      intro rest
      exact .pure rfl
    · exact .pure (by simp)
  apply Passes.after
  intro ends
  apply Passes.ite
  · exact .pure rfl
  · apply (passes.each .element).bind
    intro first
    apply Passes.eat (by decide)
    intro paired
    apply Passes.ite
    · apply (passes.each .element).bind
      intro value
      exact further (.keyValue first value)
    · exact further first

theorem passes_exprOrType : (exprOrType below).Passes Anything [] Expr.heads := by
  apply Passes.after
  intro typed
  apply Passes.ite
  · apply (passes_type_below passes).bind
    intro type
    exact passes.each (.primaryTail type)
  · exact passes_expr passes

theorem passes_operand : (operand below).Passes Anything [] Expr.heads := by
  apply Passes.peek
  intro kind
  split
  · exact .ident fun name => .pure rfl
  · apply Passes.bumped (by decide)
    intro _
    apply (passes_exprOrType passes).nested.bind
    intro inner
    exact .expect (by decide) fun _ => .pure rfl
  · apply passes_anonymous passes
    intro signature
    apply Passes.after
    intro bodied
    apply Passes.ite
    · apply (passes_functionBody passes).bind
      intro body
      exact .pure (by simp)
    · exact .pure rfl
  · exact (passes_type_below passes).anywhere
  · exact (passes_type_below passes).anywhere
  · exact (passes_type_below passes).anywhere
  · exact (passes_type_below passes).anywhere
  · exact (passes_type_below passes).anywhere
  · split
    · rename_i literalKind isLiteral
      apply Passes.bump
      · rintro _ rfl isKeyword
        rw [isKeyword] at isLiteral
        cases isLiteral
      · exact fun _ => .pure rfl
    · exact .fail

theorem passes_unary : (unary below).Passes Anything [] Expr.heads := by
  apply Passes.peek
  intro kind
  split
  · rename_i isStar
    apply Passes.bump
    · rintro _ rfl
      rw [isStar]
      decide
    · intro _
      apply (passes.each .unary).bind
      intro inner
      exact .pure rfl
  · apply Passes.after
    intro second
    apply Passes.ite
    · apply (passes_type_below passes).bind
      intro type
      exact passes.each (.primaryTail type)
    · split
      · rename_i op isOp
        apply Passes.bump
        · rintro _ rfl isKeyword
          rw [isKeyword] at isOp
          cases isOp
        · intro _
          apply (passes.each .unary).bind
          intro operand
          exact .pure rfl
      · apply (passes_operand passes).bind
        intro first
        exact passes.each (.primaryTail first)

theorem passes_arguments :
    (arguments below).Passes Anything [] (Production.heads .arguments) := by
  apply Passes.after
  intro ends
  apply Passes.ite
  · exact .pure rfl
  · apply (passes_exprOrType passes).bind
    intro first
    apply Passes.eat (by decide)
    intro spread
    apply Passes.eat (by decide)
    intro more
    apply Passes.ite
    · apply (passes.each .arguments).bind
      intro rest
      exact .pure rfl
    · exact .pure (by simp)

theorem passes_sliceBounds (base : Expr) (low : Option Expr) :
    (sliceBounds below base low).Passes Anything (base.heads ++ low.elim [] (·.heads))
      Expr.heads := by
  have most : ∀ high : Option Expr, (do
      let max ← if ← eat .colon then pure (some (← expr below)) else pure none
      return .slice base low high max : Parser Expr).Passes Anything
        (base.heads ++ low.elim [] (·.heads) ++ high.elim [] (·.heads)) Expr.heads := by
    intro high
    apply Passes.eat (by decide)
    intro more
    apply Passes.ite
    · apply (passes_expr passes).bind
      intro max
      apply Passes.pure
      cases low <;> cases high <;> simp
    · apply Passes.pure
      cases low <;> cases high <;> simp
  apply Passes.expect (by decide)
  intro _
  apply Passes.after
  intro ends
  apply Passes.ite
  · exact (most none).relist (List.append_nil _)
  · apply (passes_expr passes).bind
    intro high
    exact most (some high)

theorem passes_indexOrSlice (base : Expr) :
    (indexOrSlice below base).Passes Anything base.heads Expr.heads := by
  apply Passes.after
  intro unbounded
  apply Passes.ite
  · exact (passes_sliceBounds passes base none).relist (List.append_nil _)
  · apply (passes_expr passes).bind
    intro low
    apply Passes.after
    intro sliced
    apply Passes.ite
    · exact passes_sliceBounds passes base (some low)
    · exact .pure rfl

theorem passes_selectorOrAssertion (base : Expr) :
    (selectorOrAssertion below base).Passes Anything base.heads Expr.heads := by
  have asserted : ∀ type : Option Expr, (do
      let _ ← expect .rightParen
      return .assertion base type : Parser Expr).Passes Anything
        (base.heads ++ type.elim [] (·.heads)) Expr.heads := by
    intro type
    apply Passes.expect (by decide)
    intro _
    apply Passes.pure
    cases type <;> rfl
  apply Passes.expect (by decide)
  intro _
  apply Passes.after
  intro selects
  apply Passes.ite
  · exact .ident fun name => .pure rfl
  · apply Passes.expect (by decide)
    intro _
    apply Passes.eat (by decide)
    intro switched
    apply Passes.ite
    · exact (asserted none).relist (List.append_nil _)
    · apply (passes_type_below passes).bind
      intro type
      exact asserted (some type)

theorem passes_primaryTail (operand : Expr) :
    (primaryTail below operand).Passes Anything operand.heads Expr.heads := by
  have further : ∀ next : Expr, (below (.primaryTail next)).Passes Anything next.heads Expr.heads :=
    fun next => passes.each (.primaryTail next)
  apply Passes.peek
  intro kind
  split
  · exact (passes_selectorOrAssertion passes operand).anywhere.chain further
  · apply Passes.bumped (by decide)
    intro _
    apply (passes_indexOrSlice passes operand).nested.chain
    intro next
    exact .expect (by decide) fun _ => further next
  · apply Passes.bumped (by decide)
    intro _
    apply (passes.each .arguments).nested.bind
    intro read
    exact .expect (by decide) fun _ => further (.call operand read.1 read.2)
  · apply Passes.after
    intro now
    apply Passes.ite
    · exact (passes_compositeBody passes (some operand)).anywhere.chain further
    · exact .pure rfl
  · exact .pure rfl

end Grammar

end GoMend
