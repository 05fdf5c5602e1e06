import GoMend.Proofs.Formed.Signatures
import GoMend.Proofs.Formed.Tree

/-!
# Types are read well-formed

What a production may be handed and what it then gives is told for all productions at once.  Here
this is shown for types and the lists in them, given that it holds of the productions below.
Something may stand directly behind a type, unless it begins with a star.
-/

namespace GoMend

open GoMend.Parser

namespace Production

/-- What a production gives is well-formed, if what it is handed is. -/
def Forms (source : List Token) :
    (production : Production) → ParserState → production.Result → ParserState → Prop
  | .binary floor, _, (expr : Expr), final =>
      expr.Formed source .value ∧ expr.binds floor ∧ Loose floor final.kind
  | .binaryTail floor left, state, (expr : Expr), final =>
      left.Formed source .value → left.binds floor →
        (∀ op, BinaryOp.ofKind? state.kind = some op → left.binds op.precedence) →
          expr.Formed source .value ∧ expr.binds floor ∧ Loose floor final.kind
  | .unary, _, (expr : Expr), _ => expr.Formed source .value ∧ expr.isBinary = false
  | .primaryTail operand, _, (expr : Expr), _ =>
      operand.Formed source .value → operand.isOperand = true →
        expr.Formed source .value ∧ expr.isOperand = true
  | .exprTail, _, (exprs : List Expr), _ => ∀ expr ∈ exprs, expr.Formed source .value
  | .arguments, _, (read : List Expr × Bool), _ =>
      (∀ argument ∈ read.1, argument.Formed source .value) ∧ (read.2 = true → read.1 ≠ [])
  | .elements, _, (items : List Expr), _ => ∀ item ∈ items, item.Formed source .item
  | .element, _, (expr : Expr), _ => expr.Formed source .element
  | .type, state, (expr : Expr), _ =>
      expr.Formed source .value ∧ expr.isBinary = false ∧
        (state.kind ≠ .star → expr.isOperand = true)
  | .params, _, (entries : List (Expr × Option Expr)), _ =>
      ∀ entry ∈ entries, entry.1.Formed source .entry ∧ ∀ type ∈ entry.2, type.Formed source .entry
  | .structFields, _, (fields : List Field), _ =>
      ∀ field ∈ fields, field.type.Formed source .value ∧ field.Named source .struct
  | .interfaceMembers, _, (fields : List Field), _ =>
      ∀ field ∈ fields, field.type.Formed source .value ∧ field.Named source .interface
  | .block, _, (body : Block), _ => body.Formed source
  | .stmts, _, (body : List Stmt), _ => ∀ stmt ∈ body, stmt.Formed source .listed
  | .stmt, _, (kind : StmtKind), _ => kind.Formed source
  | .conditional, _, (kind : StmtKind), _ => kind.Formed source ∧ kind.isAlternative = true
  | .caseClauses, _, (clauses : List CaseClause), _ => ∀ clause ∈ clauses, clause.Formed source
  | .commClauses, _, (clauses : List CommClause), _ => ∀ clause ∈ clauses, clause.Formed source
  | .identTail, _, _, _ => True
  | .specs keyword, _, (entries : List Spec), _ => ∀ spec ∈ entries, spec.Formed source keyword
  | .imports, _, (list : List Decl), _ => ∀ decl ∈ list, decl.Formed source true
  | .decls, _, (list : List Decl), _ => ∀ decl ∈ list, decl.Formed source false

end Production

/-- Within the source the productions of the reader all give what is well-formed. -/
structure Reader.Forms (source : List Token) (below : Reader) : Prop where
  isRead : ∃ bound, below = Production.read bound
  each : ∀ production state, Within source state.ahead →
    (below production).Ensures state (production.Forms source state)

namespace Grammar

variable {source : List Token} {below : Reader}

/-! ## What is given below -/

theorem forms_type_below (forms : below.Forms source) :
    (below .type).Gives (Within source) (·.Formed source .value) :=
  fun state here => (forms.each .type state here).weaken fun _ _ formed => formed.1

theorem forms_expr (forms : below.Forms source) :
    (expr below).Gives (Within source) (·.Formed source .value) :=
  fun state here => (forms.each (.binary 1) state here).weaken fun _ _ formed => formed.1

variable [∀ production, Forward (below production)]

/-- What a production gives, and that what remains is still of the source. -/
theorem forms_within (forms : below.Forms source) (production : Production)
    {state : ParserState} (here : Within source state.ahead) :
    (below production).Ensures state fun result final =>
      production.Forms source state result final ∧ Within source final.ahead :=
  (forms.each production state here).and (Stays.stays state here)

/-! ## Names and parameters -/

theorem forms_typeName :
    typeName.Gives (Within source) fun type =>
      type.Formed source .value ∧ isTypeName type = true := by
  apply Gives.after
  intro name
  apply Gives.after
  intro qualified
  apply Gives.ite
  · apply Gives.after
    intro member
    apply Gives.pure
    constructor
    · exact .selector member (.ident name) rfl
    · rfl
  · apply Gives.pure
    constructor
    · exact .ident name
    · rfl

theorem isOperand_of_isTypeName {type : Expr} (named : isTypeName type = true) :
    type.isOperand = true ∧ type.isBinary = false := by
  cases type with
  | ident | selector => exact ⟨rfl, rfl⟩
  | _ => cases named

theorem forms_identList (below : Reader) [∀ production, Forward (below production)] :
    (identList below).Gives (Within source) (· ≠ []) := by
  apply Gives.after
  intro first
  apply Gives.after
  intro others
  exact Gives.pure (List.cons_ne_nil _ _)

theorem forms_paramType (forms : below.Forms source) :
    (paramType below).Gives (Within source) (·.Formed source .entry) := by
  apply Gives.after
  intro many
  apply Gives.ite
  · apply (forms_type_below forms).bind
    intro type formed
    exact .pure (.variadic formed)
  · exact (forms_type_below forms).weaken fun type formed => .entry formed

theorem forms_params (forms : below.Forms source) :
    (params below).Gives (Within source) fun entries =>
      ∀ entry ∈ entries, entry.1.Formed source .entry ∧
        ∀ type ∈ entry.2, type.Formed source .entry := by
  have further : ∀ entry : Expr × Option Expr,
      entry.1.Formed source .entry ∧ (∀ type ∈ entry.2, type.Formed source .entry) →
        (do
          if ← eat .comma then return entry :: (← below .params)
          else return [entry] : Parser (List (Expr × Option Expr))).Gives (Within source)
            fun entries => ∀ entry ∈ entries, entry.1.Formed source .entry ∧
              ∀ type ∈ entry.2, type.Formed source .entry := by
    intro entry formed
    apply Gives.after
    intro more
    apply Gives.ite
    · apply Gives.bind (forms.each .params)
      intro rest restFormed
      exact .pure (List.forall_mem_cons.2 ⟨formed, restFormed⟩)
    · exact .pure (List.forall_mem_singleton.2 formed)
  apply Gives.after
  intro ends
  apply Gives.ite
  · exact .pure (List.forall_mem_nil _)
  · apply (forms_paramType forms).bind
    intro first formed
    apply Gives.after
    intro single
    apply Gives.ite
    · exact further (first, none) ⟨formed, by simp⟩
    · apply (forms_paramType forms).bind
      intro type typeFormed
      exact further (first, some type) ⟨formed, fun _ same => Option.some.inj same ▸ typeFormed⟩

/-- Names are gathered until one of them has a type, so each field that they make has names. -/
theorem Groups.formed {pending : List Ident} {entries : List (Expr × Option Expr)}
    {fields : List Field} (groups : Groups pending entries fields)
    (formed : ∀ entry ∈ entries, ∀ type ∈ entry.2, type.Formed source .entry) :
    ∀ field ∈ fields, field.type.Formed source .entry ∧ field.names ≠ [] := by
  induction groups with
  | nil => exact List.forall_mem_nil _
  | wait name _ ih => exact ih (List.forall_mem_cons.1 formed).2
  | take pending name type _ ih =>
      obtain ⟨own, others⟩ := List.forall_mem_cons.1 formed
      have taken : type.Formed source .entry ∧ pending ++ [name] ≠ [] := ⟨own type rfl, by simp⟩
      exact List.forall_mem_cons.2 ⟨taken, ih others⟩

/-- The fields that the entries of a list make have names or have none, all of them alike. -/
theorem groupParams?_formed {entries : List (Expr × Option Expr)} {fields : List Field}
    (grouped : groupParams? entries = some fields)
    (formed : ∀ entry ∈ entries, entry.1.Formed source .entry ∧
      ∀ type ∈ entry.2, type.Formed source .entry) :
    (∀ field ∈ fields, field.type.Formed source .entry) ∧
      FieldList.Uniform .signature ⟨fields, []⟩ := by
  rw [groupParams?] at grouped
  split at grouped
  · have named := (groups_of_groupNamed? grouped).formed fun entry member => (formed entry member).2
    constructor
    · exact fun field member => (named field member).1
    · exact fun _ => .inl fun field member => (named field member).2
  · cases grouped
    constructor
    · intro field member
      obtain ⟨entry, isEntry, rfl⟩ := List.mem_map.1 member
      exact (formed entry isEntry).1
    · intro _
      apply Or.inr
      intro field member
      obtain ⟨entry, _, rfl⟩ := List.mem_map.1 member
      rfl

theorem forms_parameters (forms : below.Forms source) :
    (parameters below).Gives (Within source) (·.Formed source .signature) := by
  apply Gives.after
  intro opening
  apply Gives.after
  intro outer
  apply Gives.after
  intro _
  apply Gives.bind (forms.each .params)
  intro entries formed
  apply Gives.after
  intro _
  apply Gives.after
  intro close
  split
  · rename_i fields grouped
    have made := groupParams?_formed grouped formed
    apply Gives.pure
    constructor
    · exact made.1
    · exact fun _ _ => trivial
    · exact made.2
  · exact fun _ _ => trivial

theorem forms_results (forms : below.Forms source) :
    (results below).Gives (Within source) fun results =>
      ∀ list ∈ results, list.Formed source .signature := by
  apply Gives.after
  intro listed
  apply Gives.ite
  · apply (forms_parameters forms).bind
    intro list formed
    exact .pure fun _ same => Option.some.inj same ▸ formed
  · apply Gives.after
    intro kind
    apply Gives.ite
    · apply (forms_type_below forms).bind
      intro type formed
      have single : FieldList.Formed source .signature ⟨[unnamedField type], []⟩ := by
        constructor
        · exact List.forall_mem_singleton.2 (.entry formed)
        · exact fun _ _ => trivial
        · exact fun _ => .inr (List.forall_mem_singleton.2 rfl)
      exact .pure fun _ same => Option.some.inj same ▸ single
    · exact .pure (by simp)

theorem forms_signature (forms : below.Forms source) :
    (signature below).Gives (Within source) (·.Formed source) := by
  apply (forms_parameters forms).bind
  intro params taking
  apply (forms_results forms).bind
  intro results giving
  exact .pure ⟨taking, giving⟩

/-! ## Members -/

theorem forms_structFieldHead (forms : below.Forms source) :
    (structFieldHead below).Gives (Within source) fun head => head.2.Formed source .value ∧
      (head.1 = [] → head.2.isEmbeddable = true) := by
  apply Gives.after
  intro first
  apply Gives.after
  intro second
  apply Gives.ite
  · apply Gives.after
    intro star
    apply forms_typeName.bind
    intro name named
    apply Gives.pure
    constructor
    · exact .star named.1 (isOperand_of_isTypeName named.2).2
    · exact fun _ => named.2
  · apply Gives.ite
    · apply forms_typeName.bind
      intro name named
      apply Gives.pure
      constructor
      · exact named.1
      · intro _
        cases name with
        | ident | selector => exact named.2
        | _ => cases named.2
    · apply (forms_identList below).bind
      intro names some
      apply (forms_type_below forms).bind
      intro type formed
      exact .pure ⟨formed, fun none => absurd none some⟩

theorem forms_structFields (forms : below.Forms source) :
    (structFields below).Gives (Within source) fun fields =>
      ∀ field ∈ fields, field.type.Formed source .value ∧ field.Named source .struct := by
  apply Gives.after
  intro ends
  apply Gives.ite
  · exact .pure (List.forall_mem_nil _)
  · apply Gives.after
    intro doc
    apply (forms_structFieldHead forms).bind
    intro head formed
    apply Gives.after
    intro tag
    apply Gives.after
    intro comment
    apply Gives.after
    intro _
    apply Gives.bind (forms.each .structFields)
    intro rest restFormed
    exact .pure (List.forall_mem_cons.2 ⟨formed, restFormed⟩)

/-- A method is read with its signature behind its name. -/
theorem forms_interfaceMemberHead (forms : below.Forms source) :
    (interfaceMemberHead below).Gives (Within source) fun head => head.2.Formed source .value ∧
      (head.1 = [] ∨ ∃ name signature, head.1 = [name] ∧ head.2 = .funcType signature ∧
        signature.Follows source name) := by
  apply Gives.after
  intro first
  apply Gives.after
  intro second
  apply Gives.ite
  · intro state here
    obtain ⟨bound, isRead⟩ := forms.isRead
    rw [Ensures, ends_bind, ends_ident]
    constructor
    · intro isName
      obtain ⟨name, named, ahead⟩ := ParserState.ahead_of_kind isName (by decide)
      have token : state.token = name := by
        rw [ParserState.token, ahead]
      rw [ends_bind]
      apply ((forms_signature forms state.advance here.advance).and
        (isRead ▸ madeOf_signature bound state.advance)).weaken
      rintro signature final ⟨formed, words, isWords, made⟩
      have stands : name :: words <:+: source := by
        apply List.IsInfix.trans _ here.isInfix
        refine ⟨[], final.ahead, ?_⟩
        rw [ahead, isWords, List.nil_append, List.cons_append]
      refine ⟨.funcType formed, .inr ⟨_, signature, rfl, rfl, name, words, stands, named, ?_, made⟩⟩
      rw [token]
      rfl
    · intro _
      trivial
  · apply (forms_type_below forms).bind
    intro type formed
    exact .pure ⟨formed, .inl rfl⟩

theorem forms_interfaceMembers (forms : below.Forms source) :
    (interfaceMembers below).Gives (Within source) fun fields =>
      ∀ field ∈ fields, field.type.Formed source .value ∧ field.Named source .interface := by
  apply Gives.after
  intro ends
  apply Gives.ite
  · exact .pure (List.forall_mem_nil _)
  · apply Gives.after
    intro doc
    apply (forms_interfaceMemberHead forms).bind
    intro head formed
    apply Gives.after
    intro comment
    apply Gives.after
    intro _
    apply Gives.bind (forms.each .interfaceMembers)
    intro rest restFormed
    exact .pure (List.forall_mem_cons.2 ⟨formed, restFormed⟩)

omit [∀ production, Forward (below production)] in
theorem forms_memberList {members : Parser (List Field)} [Forward members] {role : FieldRole}
    (other : role ≠ .signature)
    (each : members.Gives (Within source) fun fields =>
      ∀ field ∈ fields, field.type.Formed source role.types ∧ field.Named source role) :
    (memberList members).Gives (Within source) (·.Formed source role) := by
  apply Gives.after
  intro opening
  apply each.bind
  intro fields formed
  apply Gives.after
  intro closing
  apply Gives.after
  intro close
  apply Gives.pure
  constructor
  · exact fun field member => (formed field member).1
  · exact fun field member => (formed field member).2
  · exact fun isSignature => absurd isSignature other

/-! ## Types -/

theorem forms_arrayLength (forms : below.Forms source) :
    (arrayLength below).Gives (Within source) fun length =>
      ∀ size, length = .fixed size → size.Formed source .value := by
  apply Gives.after
  intro opening
  apply Gives.after
  intro isSlice
  apply Gives.ite
  · exact .pure (by simp)
  · apply Gives.after
    intro isInferred
    apply Gives.ite
    · apply Gives.after
      intro close
      exact .pure (by simp)
    · apply (forms_expr forms).nested.outcome.bind
      intro size formed
      apply Gives.after
      intro close
      cases size with
      | ok size => exact .pure fun _ same => ArrayLength.fixed.inj same ▸ formed size rfl
      | error error => exact .throw

/-- A type is well-formed, and something may stand directly behind one that begins with no star. -/
theorem forms_type (forms : below.Forms source) (state : ParserState)
    (here : Within source state.ahead) :
    (type below).Ensures state fun type _ => type.Formed source .value ∧ type.isBinary = false ∧
      (state.kind ≠ .star → type.isOperand = true) := by
  have operand : ∀ {parser : Parser Expr}, (parser.Gives (Within source) fun type =>
      type.Formed source .value ∧ type.isBinary = false ∧ type.isOperand = true) →
        parser.Ensures state fun type _ => type.Formed source .value ∧ type.isBinary = false ∧
          (state.kind ≠ .star → type.isOperand = true) := fun gives =>
    (gives state here).weaken fun _ _ formed => ⟨formed.1, formed.2.1, fun _ => formed.2.2⟩
  rw [type, Ensures, ends_bind, ends_peek]
  split
  case h_1 =>
    apply operand
    exact forms_typeName.weaken fun type named =>
      ⟨named.1, (isOperand_of_isTypeName named.2).2, (isOperand_of_isTypeName named.2).1⟩
  case h_2 isStar =>
    rw [ends_bind, ends_bump, ends_bind]
    apply (forms.each .type state.advance here.advance).weaken
    intro inner final formed
    exact ⟨.star formed.1 formed.2.1, rfl, fun other => absurd isStar other⟩
  case h_3 =>
    apply operand
    apply (forms_arrayLength forms).bind
    intro length sized
    apply (forms_type_below forms).bind
    intro element typed
    exact .pure ⟨.arrayType sized typed, rfl, rfl⟩
  case h_4 =>
    apply operand
    apply Gives.after
    intro _
    apply Gives.after
    intro _
    apply (forms_type_below forms).bind
    intro key keyed
    apply Gives.after
    intro _
    apply (forms_type_below forms).bind
    intro value valued
    exact .pure ⟨.mapType keyed valued, rfl, rfl⟩
  case h_5 =>
    apply operand
    apply Gives.after
    intro _
    apply Gives.after
    intro sends
    apply (forms_type_below forms).bind
    intro element typed
    exact .pure ⟨.chanType _ typed, rfl, rfl⟩
  case h_6 =>
    apply operand
    apply Gives.after
    intro _
    apply Gives.after
    intro _
    apply (forms_type_below forms).bind
    intro element typed
    exact .pure ⟨.chanType _ typed, rfl, rfl⟩
  case h_7 =>
    apply operand
    apply Gives.after
    intro _
    apply (forms_signature forms).bind
    intro signature formed
    exact .pure ⟨.funcType formed, rfl, rfl⟩
  case h_8 =>
    apply operand
    apply Gives.after
    intro _
    have members : (memberList (below .structFields)).Gives (Within source)
        (·.Formed source .struct) :=
      forms_memberList (by decide) (forms.each .structFields)
    apply members.bind
    intro fields listed
    exact .pure ⟨.structType listed, rfl, rfl⟩
  case h_9 =>
    apply operand
    apply Gives.after
    intro _
    have members : (memberList (below .interfaceMembers)).Gives (Within source)
        (·.Formed source .interface) :=
      forms_memberList (by decide) (forms.each .interfaceMembers)
    apply members.bind
    intro methods listed
    exact .pure ⟨.interfaceType listed, rfl, rfl⟩
  case h_10 =>
    apply operand
    apply Gives.after
    intro _
    apply (forms_type_below forms).bind
    intro inner inside
    apply Gives.after
    intro _
    exact .pure ⟨.paren inside, rfl, rfl⟩
  case h_11 => exact trivial

end Grammar

end GoMend
