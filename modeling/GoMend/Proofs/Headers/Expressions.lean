import GoMend.Proofs.Headers.Tree

/-!
# Types and expressions are clear of blocks

What a production gives at a level is told for all productions at once.  Here this is shown for
types and expressions, given that it holds of the productions below.  Only behind an operand a brace
may open a literal with a type.  In a header it does not if the operand is a type name, and every
bracket inside of the header sets literals free again.
-/

namespace GoMend

open GoMend.Parser

/-- Where something stands that is read at the level. -/
def Site.ofLevel (level : Int) : Site :=
  if level < 0 then .header else .free

namespace Production

/-- What a production gives is kept where it stands, if what it is handed is. -/
def Keeps (site : Site) : (production : Production) → production.Result → Prop
  | .binary _, (expr : Expr) => expr.Kept site
  | .binaryTail _ left, (expr : Expr) => left.Kept site → expr.Kept site
  | .unary, (expr : Expr) => expr.Kept site
  | .primaryTail operand, (expr : Expr) => operand.Kept site → expr.Kept site
  | .exprTail, (exprs : List Expr) => ∀ expr ∈ exprs, expr.Kept site
  | .arguments, (read : List Expr × Bool) => ∀ argument ∈ read.1, argument.Kept site
  | .elements, (items : List Expr) => ∀ item ∈ items, item.Kept site
  | .element, (expr : Expr) => expr.Kept site
  | .type, (expr : Expr) => expr.KeptAnywhere
  | .params, (entries : List (Expr × Option Expr)) =>
      ∀ entry ∈ entries, entry.1.KeptAnywhere ∧ ∀ type ∈ entry.2, type.KeptAnywhere
  | .structFields, (fields : List Field) => ∀ field ∈ fields, field.type.KeptAnywhere
  | .interfaceMembers, (fields : List Field) => ∀ field ∈ fields, field.type.KeptAnywhere
  | .block, (body : Block) => body.Kept site
  | .stmts, (body : List Stmt) => ∀ stmt ∈ body, stmt.Kept site
  | .stmt, (kind : StmtKind) => kind.Kept site
  | .conditional, (kind : StmtKind) => kind.Kept site
  | .caseClauses, (clauses : List CaseClause) => ∀ clause ∈ clauses, clause.Kept site
  | .commClauses, (clauses : List CommClause) => ∀ clause ∈ clauses, clause.Kept site
  | .identTail, _ => True
  | .specs _, (entries : List Spec) => ∀ spec ∈ entries, spec.Kept site
  | .imports, (list : List Decl) => ∀ decl ∈ list, decl.Kept site
  | .decls, (list : List Decl) => ∀ decl ∈ list, decl.Kept site

end Production

/-- At every level from that of a header on, the productions of the reader give what is kept. -/
structure Reader.Keeps (below : Reader) : Prop where
  each : ∀ production level, -1 ≤ level →
    (below production).GivesAt level (production.Keeps (.ofLevel level))

/-- In brackets, one level further in, literals are free. -/
theorem Site.ofLevel_nested {level : Int} (inner : -1 ≤ level) :
    Site.ofLevel (level + 1) = .free :=
  if_neg (by omega)

namespace Reader.Keeps

variable {below : Reader} {level : Int}

theorem nested (keeps : below.Keeps) (inner : -1 ≤ level) (production : Production) :
    (Parser.nested (below production)).GivesAt level (production.Keeps .free) := by
  rw [← Site.ofLevel_nested inner]
  exact .nested (keeps.each production (level + 1) (by omega))

/-- What is read afresh is free wherever it stands. -/
theorem fresh (keeps : below.Keeps) (production : Production) :
    (Parser.fresh (below production)).GivesAt level (production.Keeps .free) :=
  .fresh (keeps.each production 0 (by decide))

end Reader.Keeps

namespace Grammar

variable {below : Reader} {level : Int}

/-! ## Names and parameters -/

theorem keeps_typeName : typeName.GivesAt level Expr.KeptAnywhere := by
  apply GivesAt.after
  intro name
  apply GivesAt.after
  intro qualified
  apply GivesAt.ite
  · apply GivesAt.after
    intro member
    exact .pure fun _ => .selector member (.ident name)
  · exact .pure fun _ => .ident name

theorem keeps_identList (keeps : below.Keeps) (inner : -1 ≤ level) :
    (identList below).GivesAt level fun _ => True := by
  apply GivesAt.after
  intro first
  apply GivesAt.bind (keeps.each .identTail level inner)
  intro others _
  exact .pure trivial

theorem keeps_paramType (keeps : below.Keeps) (inner : -1 ≤ level) :
    (paramType below).GivesAt level Expr.KeptAnywhere := by
  apply GivesAt.after
  intro many
  apply GivesAt.ite
  · apply GivesAt.bind (keeps.each .type level inner)
    intro type typed
    exact .pure fun site => .variadic (typed site)
  · exact keeps.each .type level inner

theorem keeps_params (keeps : below.Keeps) (inner : -1 ≤ level) :
    (params below).GivesAt level fun entries =>
      ∀ entry ∈ entries, entry.1.KeptAnywhere ∧ ∀ type ∈ entry.2, type.KeptAnywhere := by
  have further : ∀ entry : Expr × Option Expr,
      (entry.1.KeptAnywhere ∧ ∀ type ∈ entry.2, type.KeptAnywhere) → (do
        if ← eat .comma then return entry :: (← below .params)
        else return [entry] : Parser (List (Expr × Option Expr))).GivesAt level fun entries =>
          ∀ entry ∈ entries, entry.1.KeptAnywhere ∧ ∀ type ∈ entry.2, type.KeptAnywhere := by
    intro entry kept
    apply GivesAt.after
    intro more
    apply GivesAt.ite
    · apply GivesAt.bind (keeps.each .params level inner)
      intro rest restKept
      exact .pure (List.forall_mem_cons.2 ⟨kept, restKept⟩)
    · exact .pure (List.forall_mem_singleton.2 kept)
  apply GivesAt.after
  intro ends
  apply GivesAt.ite
  · exact .pure (List.forall_mem_nil _)
  · apply (keeps_paramType keeps inner).bind
    intro first kept
    apply GivesAt.after
    intro single
    apply GivesAt.ite
    · exact further (first, none) ⟨kept, by simp⟩
    · apply (keeps_paramType keeps inner).bind
      intro type typed
      exact further (first, some type) ⟨kept, fun _ same => Option.some.inj same ▸ typed⟩

/-- The types of the fields are the entries that have names in front of them. -/
theorem Groups.keeps {pending : List Ident} {entries : List (Expr × Option Expr)}
    {fields : List Field} (groups : Groups pending entries fields)
    (typed : ∀ entry ∈ entries, ∀ type ∈ entry.2, type.KeptAnywhere) :
    ∀ field ∈ fields, field.type.KeptAnywhere := by
  induction groups with
  | nil => exact List.forall_mem_nil _
  | wait _ _ ih => exact ih (List.forall_mem_cons.1 typed).2
  | take _ _ type _ ih =>
      obtain ⟨own, others⟩ := List.forall_mem_cons.1 typed
      exact List.forall_mem_cons.2 ⟨own type rfl, ih others⟩

theorem groupParams?_keeps {entries : List (Expr × Option Expr)} {fields : List Field}
    (grouped : groupParams? entries = some fields)
    (kept : ∀ entry ∈ entries, entry.1.KeptAnywhere ∧ ∀ type ∈ entry.2, type.KeptAnywhere) :
    ∀ field ∈ fields, field.type.KeptAnywhere := by
  rw [groupParams?] at grouped
  split at grouped
  · exact (groups_of_groupNamed? grouped).keeps fun entry member => (kept entry member).2
  · cases grouped
    intro field member
    obtain ⟨entry, isEntry, rfl⟩ := List.mem_map.1 member
    exact (kept entry isEntry).1

/-- A list of parameters is read afresh, so the level around it does not matter. -/
theorem keeps_parameters (keeps : below.Keeps) :
    (parameters below).GivesAt level fun list => ∀ site, list.Kept site := by
  apply GivesAt.after
  intro opening
  apply GivesAt.restored (keeps.each .params 0 (by decide))
  intro entries kept
  apply GivesAt.after
  intro close
  split
  · rename_i fields grouped
    exact .pure fun site => ⟨fun field member => groupParams?_keeps grouped kept field member site⟩
  · exact .failAt

theorem keeps_results (keeps : below.Keeps) (inner : -1 ≤ level) :
    (results below).GivesAt level fun results =>
      ∀ list ∈ results, ∀ site, FieldList.Kept site list := by
  apply GivesAt.after
  intro enclosed
  apply GivesAt.ite
  · apply (keeps_parameters keeps).bind
    intro list kept
    exact .pure fun _ same => Option.some.inj same ▸ kept
  · apply GivesAt.after
    intro kind
    apply GivesAt.ite
    · apply GivesAt.bind (keeps.each .type level inner)
      intro type typed
      exact .pure fun _ same site => Option.some.inj same ▸ ⟨List.forall_mem_singleton.2 (typed site)⟩
    · exact .pure (by simp)

theorem keeps_signature (keeps : below.Keeps) (inner : -1 ≤ level) :
    (signature below).GivesAt level fun signature => ∀ site, signature.Kept site := by
  apply (keeps_parameters keeps).bind
  intro params taking
  apply (keeps_results keeps inner).bind
  intro results giving
  exact .pure fun site => ⟨taking .free, fun list member => giving list member site⟩

/-! ## Members -/

theorem keeps_structFieldHead (keeps : below.Keeps) (inner : -1 ≤ level) :
    (structFieldHead below).GivesAt level fun head => head.2.KeptAnywhere := by
  apply GivesAt.after
  intro first
  apply GivesAt.after
  intro second
  apply GivesAt.ite
  · apply GivesAt.after
    intro star
    apply keeps_typeName.bind
    intro name named
    exact .pure fun site => .star (named site)
  · apply GivesAt.ite
    · apply keeps_typeName.bind
      intro name named
      exact .pure named
    · apply (keeps_identList keeps inner).bind
      intro names _
      apply GivesAt.bind (keeps.each .type level inner)
      intro type typed
      exact .pure typed

theorem keeps_structFields (keeps : below.Keeps) (inner : -1 ≤ level) :
    (structFields below).GivesAt level fun fields => ∀ field ∈ fields, field.type.KeptAnywhere := by
  apply GivesAt.after
  intro ends
  apply GivesAt.ite
  · exact .pure (List.forall_mem_nil _)
  · apply GivesAt.after
    intro doc
    apply (keeps_structFieldHead keeps inner).bind
    intro head typed
    apply GivesAt.after
    intro tag
    apply GivesAt.after
    intro comment
    apply GivesAt.after
    intro _
    apply GivesAt.bind (keeps.each .structFields level inner)
    intro rest restTyped
    exact .pure (List.forall_mem_cons.2 ⟨typed, restTyped⟩)

theorem keeps_interfaceMemberHead (keeps : below.Keeps) (inner : -1 ≤ level) :
    (interfaceMemberHead below).GivesAt level fun head => head.2.KeptAnywhere := by
  apply GivesAt.after
  intro first
  apply GivesAt.after
  intro second
  apply GivesAt.ite
  · apply GivesAt.after
    intro name
    apply (keeps_signature keeps inner).bind
    intro signature typed
    exact .pure fun site => .funcType (typed site)
  · apply GivesAt.bind (keeps.each .type level inner)
    intro type typed
    exact .pure typed

theorem keeps_interfaceMembers (keeps : below.Keeps) (inner : -1 ≤ level) :
    (interfaceMembers below).GivesAt level fun fields =>
      ∀ field ∈ fields, field.type.KeptAnywhere := by
  apply GivesAt.after
  intro ends
  apply GivesAt.ite
  · exact .pure (List.forall_mem_nil _)
  · apply GivesAt.after
    intro doc
    apply (keeps_interfaceMemberHead keeps inner).bind
    intro head typed
    apply GivesAt.after
    intro comment
    apply GivesAt.after
    intro _
    apply GivesAt.bind (keeps.each .interfaceMembers level inner)
    intro rest restTyped
    exact .pure (List.forall_mem_cons.2 ⟨typed, restTyped⟩)

theorem keeps_memberList {members : Parser (List Field)}
    (each : members.GivesAt level fun fields => ∀ field ∈ fields, field.type.KeptAnywhere) :
    (memberList members).GivesAt level fun list => ∀ site, list.Kept site := by
  apply GivesAt.after
  intro opening
  apply each.bind
  intro fields typed
  apply GivesAt.after
  intro closing
  apply GivesAt.after
  intro close
  exact .pure fun site => ⟨fun field member => typed field member site⟩

/-! ## Types -/

/-- The length of an array is read one level further in, where literals are free. -/
theorem keeps_arrayLength (keeps : below.Keeps) (inner : -1 ≤ level) :
    (arrayLength below).GivesAt level fun length =>
      ∀ size, length = .fixed size → size.Kept .free := by
  apply GivesAt.after
  intro opening
  apply GivesAt.after
  intro isSlice
  apply GivesAt.ite
  · exact .pure (by simp)
  · apply GivesAt.after
    intro isInferred
    apply GivesAt.ite
    · apply GivesAt.after
      intro close
      exact .pure (by simp)
    · apply (keeps.nested inner (.binary 1)).attempt
      · intro size kept
        exact .pure fun _ same => ArrayLength.fixed.inj same ▸ kept
      · exact fun _ => rfl

theorem keeps_type (keeps : below.Keeps) (inner : -1 ≤ level) :
    (type below).GivesAt level Expr.KeptAnywhere := by
  have typed : (below .type).GivesAt level Expr.KeptAnywhere := keeps.each .type level inner
  apply GivesAt.after
  intro kind
  split
  · exact keeps_typeName
  · apply GivesAt.after
    intro _
    apply typed.bind
    intro pointed kept
    exact .pure fun site => .star (kept site)
  · apply (keeps_arrayLength keeps inner).bind
    intro length sized
    apply typed.bind
    intro element kept
    exact .pure fun site => .arrayType sized (kept site)
  · apply GivesAt.after
    intro _
    apply GivesAt.after
    intro _
    apply typed.bind
    intro key keyed
    apply GivesAt.after
    intro _
    apply typed.bind
    intro value valued
    exact .pure fun site => .mapType (keyed site) (valued site)
  · apply GivesAt.after
    intro _
    apply GivesAt.after
    intro sends
    apply typed.bind
    intro element kept
    exact .pure fun site => .chanType _ (kept site)
  · apply GivesAt.after
    intro _
    apply GivesAt.after
    intro _
    apply typed.bind
    intro element kept
    exact .pure fun site => .chanType _ (kept site)
  · apply GivesAt.after
    intro _
    apply (keeps_signature keeps inner).bind
    intro signature kept
    exact .pure fun site => .funcType (kept site)
  · apply GivesAt.after
    intro _
    apply (keeps_memberList (keeps.each .structFields level inner)).bind
    intro fields listed
    exact .pure fun site => .structType (listed site)
  · apply GivesAt.after
    intro _
    apply (keeps_memberList (keeps.each .interfaceMembers level inner)).bind
    intro methods listed
    exact .pure fun site => .interfaceType (listed site)
  -- A type in parentheses is no literal, so it is kept even where parentheses change nothing.
  · apply GivesAt.after
    intro _
    apply typed.bind
    intro content kept
    apply GivesAt.after
    intro _
    exact .pure fun _ => .paren (kept .free)
  · exact .fail

/-! ## Lists of expressions -/

theorem keeps_expr (keeps : below.Keeps) (inner : -1 ≤ level) :
    (expr below).GivesAt level (·.Kept (.ofLevel level)) :=
  keeps.each (.binary 1) level inner

theorem keeps_exprTail (keeps : below.Keeps) (inner : -1 ≤ level) :
    (exprTail below).GivesAt level fun exprs => ∀ expr ∈ exprs, expr.Kept (.ofLevel level) := by
  apply GivesAt.after
  intro more
  apply GivesAt.ite
  · apply (keeps_expr keeps inner).bind
    intro next kept
    apply GivesAt.bind (keeps.each .exprTail level inner)
    intro rest restKept
    exact .pure (List.forall_mem_cons.2 ⟨kept, restKept⟩)
  · exact .pure (List.forall_mem_nil _)

theorem keeps_exprList (keeps : below.Keeps) (inner : -1 ≤ level) :
    (exprList below).GivesAt level fun exprs => ∀ expr ∈ exprs, expr.Kept (.ofLevel level) := by
  apply (keeps_expr keeps inner).bind
  intro first kept
  apply GivesAt.bind (keeps.each .exprTail level inner)
  intro rest restKept
  exact .pure (List.forall_mem_cons.2 ⟨kept, restKept⟩)

/-! ## Operators -/

theorem keeps_binary (keeps : below.Keeps) (inner : -1 ≤ level) (floor : Nat) :
    (binary below floor).GivesAt level (·.Kept (.ofLevel level)) := by
  apply GivesAt.bind (keeps.each .unary level inner)
  intro left kept
  apply GivesAt.weaken (keeps.each (.binaryTail floor left) level inner)
  intro expr joined
  exact joined kept

theorem keeps_binaryTail (keeps : below.Keeps) (inner : -1 ≤ level) (floor : Nat) {left : Expr}
    (kept : left.Kept (.ofLevel level)) :
    (binaryTail below floor left).GivesAt level (·.Kept (.ofLevel level)) := by
  apply GivesAt.after
  intro kind
  split
  · rename_i op _
    apply GivesAt.ite
    · exact .pure kept
    · apply GivesAt.after
      intro _
      apply GivesAt.bind (keeps.each (.binary (op.precedence + 1)) level inner)
      intro right rightKept
      apply GivesAt.weaken (keeps.each (.binaryTail floor (.binary left op right)) level inner)
      intro expr joined
      exact joined (.binary op kept rightKept)
  · exact .pure kept

/-! ## Literals -/

/-- Within the braces of a literal literals are free, whatever stands around it. -/
theorem keeps_compositeBody (keeps : below.Keeps) (type : Option Expr) :
    (compositeBody below type).GivesAt level fun expr => ∃ elements multiline,
      expr = .composite type elements multiline ∧ ∀ item ∈ elements, item.Kept .free := by
  apply GivesAt.after
  intro opening
  apply (keeps.fresh .elements).bind
  intro elements kept
  apply GivesAt.after
  intro close
  apply GivesAt.after
  intro lines
  exact .pure ⟨elements, _, rfl, kept⟩

theorem keeps_element (keeps : below.Keeps) (inner : -1 ≤ level) :
    (element below).GivesAt level (·.Kept (.ofLevel level)) := by
  apply GivesAt.after
  intro untyped
  apply GivesAt.ite
  · apply (keeps_compositeBody keeps none).weaken
    intro expr literal
    obtain ⟨elements, multiline, rfl, kept⟩ := literal
    exact .composite multiline (by simp) (by simp) kept
  · exact keeps_expr keeps inner

theorem keeps_elements (keeps : below.Keeps) (inner : -1 ≤ level) :
    (elements below).GivesAt level fun items => ∀ item ∈ items, item.Kept (.ofLevel level) := by
  have further : ∀ item : Expr, item.Kept (.ofLevel level) → (do
      if ← eat .comma then return item :: (← below .elements)
      else return [item] : Parser (List Expr)).GivesAt level fun items =>
        ∀ item ∈ items, item.Kept (.ofLevel level) := by
    intro item kept
    apply GivesAt.after
    intro more
    apply GivesAt.ite
    · apply GivesAt.bind (keeps.each .elements level inner)
      intro rest restKept
      exact .pure (List.forall_mem_cons.2 ⟨kept, restKept⟩)
    · exact .pure (List.forall_mem_singleton.2 kept)
  apply GivesAt.after
  intro ends
  apply GivesAt.ite
  · exact .pure (List.forall_mem_nil _)
  · apply GivesAt.bind (keeps.each .element level inner)
    intro first kept
    apply GivesAt.after
    intro paired
    apply GivesAt.ite
    · apply GivesAt.bind (keeps.each .element level inner)
      intro value valueKept
      exact further _ (.keyValue kept valueKept)
    · exact further first kept

/-! ## Operands -/

theorem keeps_exprOrType (keeps : below.Keeps) (inner : -1 ≤ level) :
    (exprOrType below).GivesAt level (·.Kept (.ofLevel level)) := by
  apply GivesAt.after
  intro opens
  apply GivesAt.ite
  · apply GivesAt.bind (keeps.each .type level inner)
    intro type typed
    apply GivesAt.weaken (keeps.each (.primaryTail type) level inner)
    intro expr followed
    exact followed (typed _)
  · exact keeps_expr keeps inner

theorem keeps_functionBody (keeps : below.Keeps) :
    (functionBody below).GivesAt level (·.Kept .free) :=
  keeps.fresh .block

theorem keeps_operand (keeps : below.Keeps) (inner : -1 ≤ level) :
    (operand below).GivesAt level (·.Kept (.ofLevel level)) := by
  have typed : (below .type).GivesAt level fun type : Expr => type.Kept (.ofLevel level) :=
    GivesAt.weaken (keeps.each .type level inner) fun type kept => kept _
  apply GivesAt.after
  intro kind
  split
  case h_1 =>
    apply GivesAt.after
    intro name
    exact .pure (.ident name)
  case h_2 =>
    apply GivesAt.after
    intro _
    have inside : (nested (exprOrType below)).GivesAt level (·.Kept .free) := by
      rw [← Site.ofLevel_nested inner]
      exact .nested (keeps_exprOrType keeps (by omega))
    apply inside.bind
    intro content kept
    apply GivesAt.after
    intro _
    exact .pure (.paren kept)
  case h_3 =>
    apply GivesAt.after
    intro _
    apply (keeps_signature keeps inner).bind
    intro signature taking
    apply GivesAt.after
    intro bodied
    apply GivesAt.ite
    · apply (keeps_functionBody keeps).bind
      intro body kept
      exact .pure (.function (taking _) kept)
    · exact .pure (.funcType (taking _))
  case h_9 =>
    split
    · apply GivesAt.after
      intro word
      exact .pure (.literal _)
    · exact .fail
  all_goals exact typed

theorem keeps_unary (keeps : below.Keeps) (inner : -1 ≤ level) :
    (unary below).GivesAt level (·.Kept (.ofLevel level)) := by
  have followed : ∀ first : Expr, first.Kept (.ofLevel level) →
      (below (.primaryTail first)).GivesAt level fun expr : Expr => expr.Kept (.ofLevel level) := by
    intro first kept
    apply GivesAt.weaken (keeps.each (.primaryTail first) level inner)
    intro expr followed
    exact followed kept
  apply GivesAt.after
  intro kind
  apply GivesAt.ite
  · apply GivesAt.after
    intro _
    apply GivesAt.bind (keeps.each .unary level inner)
    intro operand kept
    exact .pure (.star kept)
  · apply GivesAt.after
    intro second
    apply GivesAt.ite
    · apply GivesAt.bind (keeps.each .type level inner)
      intro type typed
      exact followed type (typed _)
    · split
      · apply GivesAt.after
        intro _
        apply GivesAt.bind (keeps.each .unary level inner)
        intro operand kept
        exact .pure (.unary _ kept)
      · exact (keeps_operand keeps inner).bind followed

/-! ## Behind an operand -/

theorem keeps_arguments (keeps : below.Keeps) (inner : -1 ≤ level) :
    (arguments below).GivesAt level fun read =>
      ∀ argument ∈ read.1, argument.Kept (.ofLevel level) := by
  apply GivesAt.after
  intro ends
  apply GivesAt.ite
  · exact .pure (List.forall_mem_nil _)
  · apply (keeps_exprOrType keeps inner).bind
    intro first kept
    apply GivesAt.after
    intro spread
    apply GivesAt.after
    intro more
    apply GivesAt.ite
    · apply GivesAt.bind (keeps.each .arguments level inner)
      intro rest restKept
      exact .pure (List.forall_mem_cons.2 ⟨kept, restKept⟩)
    · exact .pure (List.forall_mem_singleton.2 kept)

section

variable {base : Expr} {site : Site}

/-- An index or a bound is read in brackets, where the level is not that of a header. -/
theorem keeps_bound (keeps : below.Keeps) (inner : 0 ≤ level) :
    (expr below).GivesAt level (·.Kept .free) := by
  have free : Site.ofLevel level = .free := if_neg (by omega)
  rw [← free]
  exact keeps_expr keeps (by omega)

theorem keeps_sliceBounds (keeps : below.Keeps) (inner : 0 ≤ level) (based : base.Kept site)
    {low : Option Expr} (lower : ∀ bound ∈ low, bound.Kept .free) :
    (sliceBounds below base low).GivesAt level (·.Kept site) := by
  have most : ∀ high : Option Expr, (∀ bound ∈ high, bound.Kept .free) → (do
      let max ← if ← eat .colon then pure (some (← expr below)) else pure none
      return .slice base low high max : Parser Expr).GivesAt level (·.Kept site) := by
    intro high upper
    apply GivesAt.after
    intro more
    apply GivesAt.ite
    · apply (keeps_bound keeps inner).bind
      intro max kept
      exact .pure (.slice based lower upper fun _ same => Option.some.inj same ▸ kept)
    · exact .pure (.slice based lower upper (by simp))
  apply GivesAt.after
  intro _
  apply GivesAt.after
  intro ends
  apply GivesAt.ite
  · exact most none (by simp)
  · apply (keeps_bound keeps inner).bind
    intro high kept
    exact most (some high) fun _ same => Option.some.inj same ▸ kept

theorem keeps_indexOrSlice (keeps : below.Keeps) (inner : 0 ≤ level) (based : base.Kept site) :
    (indexOrSlice below base).GivesAt level (·.Kept site) := by
  apply GivesAt.after
  intro unbounded
  apply GivesAt.ite
  · exact keeps_sliceBounds keeps inner based (by simp)
  · apply (keeps_bound keeps inner).bind
    intro low kept
    apply GivesAt.after
    intro sliced
    apply GivesAt.ite
    · exact keeps_sliceBounds keeps inner based fun _ same => Option.some.inj same ▸ kept
    · exact .pure (.index based kept)

theorem keeps_selectorOrAssertion (keeps : below.Keeps) (inner : -1 ≤ level)
    (based : base.Kept site) : (selectorOrAssertion below base).GivesAt level (·.Kept site) := by
  have asserted : ∀ type : Option Expr, (∀ asserted ∈ type, asserted.Kept site) → (do
      let _ ← expect .rightParen
      return .assertion base type : Parser Expr).GivesAt level (·.Kept site) := by
    intro type typed
    apply GivesAt.after
    intro _
    exact .pure (.assertion based typed)
  apply GivesAt.after
  intro _
  apply GivesAt.after
  intro selects
  apply GivesAt.ite
  · apply GivesAt.after
    intro name
    exact .pure (.selector name based)
  · apply GivesAt.after
    intro _
    apply GivesAt.after
    intro switched
    apply GivesAt.ite
    · exact asserted none (by simp)
    · apply GivesAt.bind (keeps.each .type level inner)
      intro type typed
      exact asserted (some type) fun _ same => Option.some.inj same ▸ typed site

end

/-- In a header a brace behind a type name is left to the block. -/
theorem keeps_primaryTail (keeps : below.Keeps) (inner : -1 ≤ level) {base : Expr}
    (based : base.Kept (.ofLevel level)) :
    (primaryTail below base).GivesAt level (·.Kept (.ofLevel level)) := by
  have further : ∀ next : Expr, next.Kept (.ofLevel level) →
      (below (.primaryTail next)).GivesAt level fun expr : Expr => expr.Kept (.ofLevel level) := by
    intro next kept
    apply GivesAt.weaken (keeps.each (.primaryTail next) level inner)
    intro expr followed
    exact followed kept
  apply GivesAt.after
  intro kind
  split
  · exact (keeps_selectorOrAssertion keeps inner based).bind further
  · apply GivesAt.after
    intro _
    have indexed : (nested (indexOrSlice below base)).GivesAt level
        (·.Kept (.ofLevel level)) :=
      .nested (keeps_indexOrSlice keeps (by omega) based)
    apply indexed.bind
    intro next kept
    apply GivesAt.after
    intro _
    exact further next kept
  · apply GivesAt.after
    intro _
    apply (keeps.nested inner .arguments).bind
    intro read argumentsKept
    apply GivesAt.after
    intro _
    exact further _ (.call read.2 based argumentsKept)
  · have reached : (get : Parser ParserState).GivesAt level (·.level = level) :=
      fun state here => ⟨here, here⟩
    apply reached.bind
    intro now here
    split
    · rename_i opens
      apply (keeps_compositeBody keeps (some base)).bind
      intro next literal
      obtain ⟨elements, multiline, rfl, kept⟩ := literal
      apply further
      have clear : Site.ofLevel level = .header → isTypeName base = false := by
        intro headed
        have negative : level < 0 := by
          rw [Site.ofLevel] at headed
          split at headed
          · assumption
          · cases headed
        simp only [here, Bool.and_eq_true, Bool.or_eq_true, decide_eq_true_eq,
          Bool.not_eq_true'] at opens
        exact opens.2.resolve_left (by omega)
      exact .composite multiline (fun headed _ same => Option.some.inj same ▸ clear headed)
        (fun _ same => Option.some.inj same ▸ based) kept
    · exact .pure based
  · exact .pure based

end Grammar

end GoMend
