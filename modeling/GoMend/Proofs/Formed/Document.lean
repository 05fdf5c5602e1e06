import GoMend.Proofs.Formed.Placed
import GoMend.Proofs.Formed.Statements

/-!
# Files are read well-formed

Every production gives what is well-formed if those below it do, so all of them do, however deeply
they may nest.
-/

namespace GoMend

open GoMend.Parser

namespace Grammar

variable {source : List Token} {below : Reader} [∀ production, Forward (below production)]

/-! ## Declarations -/

theorem forms_valueSpec (forms : below.Forms source) {keyword : DeclKeyword}
    (valued : keyword ∈ [.consts, .vars]) (doc : List Comment) :
    (valueSpec below doc).Gives (Within source) fun spec =>
      (Spec.value spec).Formed source keyword := by
  apply (forms_identList below).bind
  intro names nonempty
  have ended : ∀ (type : Option Expr) (values : List Expr),
      (∀ declared ∈ type, declared.Formed source .value) →
        (∀ value ∈ values, value.Formed source .value) →
        (do return { doc, names, type, values, comment := ← takeTrailing } :
          Parser ValueSpec).Gives (Within source) fun spec =>
            (Spec.value spec).Formed source keyword := by
    intro type values typed formed
    apply Gives.after
    intro comment
    have entry : (Spec.value { doc, names, type, values, comment }).Formed source keyword :=
      .value valued nonempty typed formed
    exact .pure entry
  have further : ∀ type : Option Expr, (∀ declared ∈ type, declared.Formed source .value) → (do
      let values ←
        if ← eat .eq then exprList below
        else pure []
      return { doc, names, type, values, comment := ← takeTrailing } : Parser ValueSpec).Gives
        (Within source) fun spec => (Spec.value spec).Formed source keyword := by
    intro type typed
    apply Gives.after
    intro more
    apply Gives.ite
    · apply (forms_exprList forms).bind
      intro values formed
      exact ended type values typed formed.2
    · exact ended type [] typed (List.forall_mem_nil _)
  apply Gives.after
  intro untyped
  apply Gives.ite
  · exact further none (by simp)
  · apply (forms_type_below forms).bind
    intro type typed
    exact further (some type) fun _ same => Option.some.inj same ▸ typed

theorem forms_typeSpec (forms : below.Forms source) (doc : List Comment) :
    (typeSpec below doc).Gives (Within source) fun spec =>
      (Spec.type spec).Formed source .types := by
  apply Gives.after
  intro name
  apply Gives.after
  intro isAlias
  apply (forms_type_below forms).bind
  intro type typed
  apply Gives.after
  intro comment
  exact .pure (.type typed)

theorem forms_spec (forms : below.Forms source) (keyword : DeclKeyword) (doc : List Comment) :
    (spec below keyword doc).Gives (Within source) (·.Formed source keyword) := by
  cases keyword with
  | imports =>
      apply Gives.after
      intro spec
      exact .pure (.imported spec)
  | consts =>
      apply (forms_valueSpec forms List.mem_cons_self doc).bind
      intro spec formed
      exact .pure formed
  | vars =>
      apply (forms_valueSpec forms (List.mem_cons_of_mem _ List.mem_cons_self) doc).bind
      intro spec formed
      exact .pure formed
  | types =>
      apply (forms_typeSpec forms doc).bind
      intro spec formed
      exact .pure formed

theorem forms_specs (forms : below.Forms source) (keyword : DeclKeyword) :
    (specs below keyword).Gives (Within source) fun specs =>
      ∀ spec ∈ specs, spec.Formed source keyword := by
  apply Gives.after
  intro ends
  apply Gives.ite
  · exact .pure (List.forall_mem_nil _)
  · apply Gives.after
    intro doc
    apply (forms_spec forms keyword doc).bind
    intro first formed
    apply Gives.after
    intro _
    apply Gives.bind (forms.each (.specs keyword))
    intro rest restFormed
    exact .pure (List.forall_mem_cons.2 ⟨formed, restFormed⟩)

theorem forms_genDecl (forms : below.Forms source) (keyword : DeclKeyword) (doc : List Comment) :
    (genDecl below keyword doc).Gives (Within source) fun decl =>
      decl.Formed source ∧ decl.keyword = keyword := by
  apply Gives.after
  intro word
  apply Gives.after
  intro grouped
  apply Gives.ite
  · apply Gives.bind (forms.each (.specs keyword))
    intro specs each
    apply Gives.after
    intro _
    exact .pure ⟨⟨each, by simp⟩, rfl⟩
  · apply (forms_spec forms keyword []).bind
    intro only formed
    exact .pure ⟨⟨List.forall_mem_singleton.2 formed, fun _ => rfl⟩, rfl⟩

theorem forms_funcDecl (forms : below.Forms source) (doc : List Comment) :
    (funcDecl below doc).Gives (Within source) (·.Formed source) := by
  have further : ∀ receiver : Option FieldList,
      (∀ list ∈ receiver, list.Formed source .signature) → (do
        let name ← ident
        let signature ← signature below
        let body ←
          if ← at? .leftBrace then pure (some (← functionBody below))
          else pure none
        return { doc, receiver, name, signature, body } : Parser FuncDecl).Gives (Within source)
          (·.Formed source) := by
    intro receiver received
    apply Gives.after
    intro name
    apply (forms_signature forms).bind
    intro signature typed
    apply Gives.after
    intro bodied
    apply Gives.ite
    · apply (forms_functionBody forms).bind
      intro body formed
      exact .pure ⟨received, typed, fun _ same => Option.some.inj same ▸ formed⟩
    · exact .pure ⟨received, typed, by simp⟩
  apply Gives.after
  intro _
  apply Gives.after
  intro isMethod
  apply Gives.ite
  · apply (forms_parameters forms).bind
    intro list formed
    exact further (some list) fun _ same => Option.some.inj same ▸ formed
  · exact further none (by simp)

/-! ## Statements that declare -/

theorem forms_localDecl (forms : below.Forms source) {keyword : DeclKeyword}
    (allowed : keyword ≠ .imports) :
    (do return .decl (← genDecl below keyword []) : Parser StmtKind).Gives (Within source)
      (·.Formed source) := by
  apply (forms_genDecl forms keyword []).bind
  intro decl formed
  exact .pure (.decl formed.1 (formed.2 ▸ allowed))

theorem forms_labeled (forms : below.Forms source) :
    (do
      let label ← ident
      let _ ← bump
      if ← at? .rightBrace then return .labeled label (.bare .empty)
      else return .labeled label (.bare (← below .stmt)) : Parser StmtKind).Gives (Within source)
        (·.Formed source) := by
  apply Gives.after
  intro label
  apply Gives.after
  intro _
  apply Gives.after
  intro ends
  apply Gives.ite
  · exact .pure (.labeledEmpty label)
  · apply Gives.bind (forms.each .stmt)
    intro kind formed
    exact .pure (.labeled label (Stmt.formed_bare formed))

theorem forms_branch :
    (do
      let keyword := branchKeyword (← bump).kind
      if ← at? .identifier then return .branch keyword (some (← ident))
      else return .branch keyword none : Parser StmtKind).Gives (Within source)
        (·.Formed source) := by
  apply Gives.after
  intro word
  apply Gives.after
  intro labeled
  apply Gives.ite
  · apply Gives.after
    intro label
    exact .pure (.branch _ _)
  · exact .pure (.branch _ _)

theorem forms_stmt (forms : below.Forms source) :
    (stmt below).Gives (Within source) (·.Formed source) := by
  apply Gives.after
  intro kind
  split
  · exact forms_localDecl forms (by decide)
  · exact forms_localDecl forms (by decide)
  · exact forms_localDecl forms (by decide)
  · apply Gives.after
    intro _
    apply (forms_expr forms).bind
    intro call formed
    exact .pure (.go formed)
  · apply Gives.after
    intro _
    apply (forms_expr forms).bind
    intro call formed
    exact .pure (.defer formed)
  · apply Gives.after
    intro _
    apply Gives.after
    intro ends
    apply Gives.ite
    · exact .pure (.ret (List.forall_mem_nil _))
    · apply (forms_exprList forms).bind
      intro results formed
      exact .pure (.ret formed.2)
  · exact forms_branch
  · exact forms_branch
  · exact forms_branch
  · apply Gives.after
    intro _
    exact .pure (.branch _ _)
  · apply Gives.bind (forms.each .block)
    intro body formed
    exact .pure (.block formed)
  · exact fun state here => (forms.each .conditional state here).weaken fun _ _ formed => formed.1
  · exact forms_switch forms
  · exact forms_select forms
  · exact forms_loop forms
  · apply Gives.after
    intro second
    apply Gives.ite
    · exact forms_labeled forms
    · exact forms_simple forms

/-! ## Files -/

theorem forms_imports (forms : below.Forms source) :
    (imports below).Gives (Within source) fun decls => ∀ decl ∈ decls, decl.Formed source true := by
  apply Gives.after
  intro more
  apply Gives.ite
  · apply Gives.after
    intro doc
    apply (forms_genDecl forms .imports doc).bind
    intro first formed
    apply Gives.after
    intro _
    apply Gives.bind (forms.each .imports)
    intro rest restFormed
    have own : (Decl.gen first).Formed source true := ⟨formed.1, fun _ => rfl, fun _ => formed.2⟩
    exact .pure (List.forall_mem_cons.2 ⟨own, restFormed⟩)
  · exact .pure (List.forall_mem_nil _)

theorem forms_decl (forms : below.Forms source) (doc : List Comment) :
    (decl below doc).Gives (Within source) (·.Formed source false) := by
  have general : ∀ keyword : DeclKeyword, keyword ≠ .imports →
      (do return .gen (← genDecl below keyword doc) : Parser Decl).Gives (Within source)
        (·.Formed source false) := by
    intro keyword allowed
    apply (forms_genDecl forms keyword doc).bind
    intro decl formed
    apply Gives.pure
    constructor
    · exact formed.1
    · rw [formed.2]
      exact iff_of_false allowed Bool.false_ne_true
  apply Gives.after
  intro kind
  split
  · exact general .consts (by decide)
  · exact general .vars (by decide)
  · exact general .types (by decide)
  · apply (forms_funcDecl forms doc).bind
    intro decl formed
    exact .pure ⟨formed, rfl⟩
  · exact .fail
  · exact .fail

theorem forms_decls (forms : below.Forms source) :
    (decls below).Gives (Within source) fun decls => ∀ decl ∈ decls, decl.Formed source false := by
  apply Gives.after
  intro ends
  apply Gives.ite
  · exact .pure (List.forall_mem_nil _)
  · apply Gives.after
    intro doc
    apply (forms_decl forms doc).bind
    intro first formed
    apply Gives.after
    intro _
    apply Gives.bind (forms.each .decls)
    intro rest restFormed
    exact .pure (List.forall_mem_cons.2 ⟨formed, restFormed⟩)

theorem forms_file (forms : below.Forms source) :
    (file below).Gives (Within source) fun file => ∃ imports others,
      file.decls = imports ++ others ∧ (∀ decl ∈ imports, decl.Formed source true) ∧
        ∀ decl ∈ others, decl.Formed source false := by
  apply Gives.after
  intro doc
  apply Gives.after
  intro _
  apply Gives.after
  intro package
  apply Gives.after
  intro _
  apply Gives.bind (forms.each .imports)
  intro imports importsFormed
  apply Gives.bind (forms.each .decls)
  intro decls declsFormed
  apply Gives.after
  intro trailing
  exact .pure ⟨imports, decls, rfl, importsFormed, declsFormed⟩

end Grammar

namespace Production

variable {source : List Token}

/-- One step of the induction over the nesting of productions. -/
theorem body_forms {below : Reader} [∀ production, Forward (below production)]
    (forms : below.Forms source) (production : Production) (state : ParserState)
    (here : Within source state.ahead) :
    (production.body below).Ensures state (production.Forms source state) := by
  cases production with
  | binary floor => exact Grammar.forms_binary forms floor state here
  | binaryTail floor left => exact Grammar.forms_binaryTail forms floor left state here
  | unary => exact Grammar.forms_unary forms state here
  | primaryTail operand =>
      by_cases fits : operand.Formed source .value ∧ operand.isOperand = true
      · exact (Grammar.forms_primaryTail forms fits.1 fits.2 state here).weaken
          fun _ _ formed _ _ => formed
      · exact (ensures_trivial _ state).weaken fun _ _ _ formed isOperand =>
          absurd ⟨formed, isOperand⟩ fits
  | exprTail => exact Grammar.forms_exprTail forms state here
  | arguments => exact Grammar.forms_arguments forms state here
  | elements => exact Grammar.forms_elements forms state here
  | element => exact Grammar.forms_element forms state here
  | type => exact Grammar.forms_type forms state here
  | params => exact Grammar.forms_params forms state here
  | structFields => exact Grammar.forms_structFields forms state here
  | interfaceMembers => exact Grammar.forms_interfaceMembers forms state here
  | block => exact Grammar.forms_block forms state here
  | stmts => exact Grammar.forms_stmts forms state here
  | stmt => exact Grammar.forms_stmt forms state here
  | conditional => exact Grammar.forms_conditional forms state here
  | caseClauses => exact Grammar.forms_caseClauses forms state here
  | commClauses => exact Grammar.forms_commClauses forms state here
  | identTail => exact ensures_trivial _ state
  | specs keyword => exact Grammar.forms_specs forms keyword state here
  | imports => exact Grammar.forms_imports forms state here
  | decls => exact Grammar.forms_decls forms state here

theorem read_forms (source : List Token) (bound : Nat) : (read bound).Forms source := by
  induction bound with
  | zero => exact ⟨⟨0, rfl⟩, fun _ _ _ => trivial⟩
  | succ bound ih => exact ⟨⟨bound + 1, rfl⟩, body_forms ih⟩

end Production

/-- Every file that is read is well-formed. -/
theorem File.parse_formed {text : String} {file : File} (parsed : File.parse text = .ok file) :
    file.Formed (Lexed.ofText text).tokens := by
  refine ⟨?_, File.parse_heads parsed⟩
  rw [File.parse] at parsed
  split at parsed
  · rename_i read final reads
    cases parsed
    exact (Grammar.forms_file (Production.read_forms _ _) _ (List.suffix_refl _)).of_ok reads
  · cases parsed

/-- A method with a receiver, two parameters that share a type, and a result. -/
theorem File.parse_formed_method :
    let text := "package p\n\nfunc (t *T) f(a, b int) []T \x7b return nil \x7d\n"
    ∃ file, File.parse text = .ok file ∧ file.Formed (Lexed.ofText text).tokens := by
  intro text
  have read : (File.parse text).isOk = true := by
    decide +kernel
  cases parsed : File.parse text with
  | ok file => exact ⟨file, rfl, File.parse_formed parsed⟩
  | error fault =>
      rw [parsed] at read
      cases read

end GoMend
