import GoMend.Proofs.Grammar.Rule

/-!
# What a production asks for before it has read a word

Two parsers that are put together alike, from the productions of two readers, do the same in a state
if the readers agree in the states that are reached from it.  Whatever a production asks for behind
a word, it asks for where fewer words remain.  Here it is shown for each production what it asks for
before that: two readers that agree on this, and wherever fewer words remain, make the production do
the same.
-/

namespace GoMend

namespace Parser

variable {α β γ : Type}

/-- Wherever fewer words remain, the productions of the two readers do the same, and they go on to
later words. -/
structure Meet (left right : Reader) (words : Nat) : Prop where
  forward : ∀ production, Forward (right production)
  same : ∀ production state, state.ahead.length < words →
    left production state = right production state

variable {left right : Reader}

/-- Two parsers that begin alike do the same if they go on alike from every result. -/
theorem bind_congr {first second : Parser α} {next next' : α → Parser β} {state : ParserState}
    (begin : first state = second state)
    (each : ∀ result middle, second state = .ok result middle →
      next result middle = next' result middle) :
    (first >>= next) state = (second >>= next') state := by
  simp only [Bind.bind, EStateM.bind]
  rw [begin]
  cases run : second state with
  | ok result middle => exact each result middle run
  | error => rfl

theorem outcome_congr {first second : Parser α} {state : ParserState}
    (same : first state = second state) : outcome first state = outcome second state := by
  rw [outcome, outcome, same]

/-- What is reached by a parser that goes on to later words leaves no more of them. -/
theorem Forward.length_le {parser : Parser α} [forward : Forward parser] {state final : ParserState}
    {result : α} (run : parser state = .ok result final) :
    final.ahead.length ≤ state.ahead.length :=
  ((forward.before state).of_ok run).ahead.length_le

theorem Parallel.alike {words : Nat} (meet : Meet left right words) {first second : Parser α}
    (parallel : Parallel left right first second) {state : ParserState}
    (fewer : state.ahead.length < words) : first state = second state := by
  have each := meet.forward
  induction parallel generalizing state with
  | primitive => rfl
  | below production => exact meet.same production state fewer
  | bind parallel _ sameFirst sameNext =>
      apply bind_congr (sameFirst fewer)
      intro result middle run
      have forward := parallel.forward
      exact sameNext result (Nat.lt_of_le_of_lt (Forward.length_le run) fewer)
  | @atLevel _ _ _ enter _ _ _ sameInner =>
      have inside : (state.setLevel (enter state.level)).ahead.length < words := fewer
      simp only [Parser.atLevel, sameInner inside]
  | restored level parallel _ sameFirst sameNext =>
      have inside : (state.setLevel level).ahead.length < words := fewer
      apply bind_congr rfl
      rintro saved _ ⟨⟩
      apply bind_congr rfl
      rintro _ _ ⟨⟩
      apply bind_congr (sameFirst state.level inside)
      intro result middle run
      have forward := (parallel state.level).forward
      have fewerMiddle : middle.ahead.length < words :=
        Nat.lt_of_le_of_lt (Forward.length_le run) inside
      apply bind_congr rfl
      rintro _ _ ⟨⟩
      exact sameNext result fewerMiddle
  | attempt parallel closed _ told sameFirst sameClosing sameNext =>
      apply bind_congr (outcome_congr (sameFirst fewer))
      intro read middle run
      have forward := parallel.forward
      have fewerMiddle := Nat.lt_of_le_of_lt (Forward.length_le run) fewer
      apply bind_congr (sameClosing fewerMiddle)
      intro close behind closes
      have closing := closed.forward
      cases read with
      | ok result => exact sameNext result (Nat.lt_of_le_of_lt (Forward.length_le closes) fewerMiddle)
      | error error => rw [(told error).1, (told error).2]

/-! ## Before a word has been read -/

/-- In the state the two parsers do the same, and what they give is idle unless they have read a
word. -/
structure Alike (idle : α → Prop) (state : ParserState) (first second : Parser α) : Prop where
  same : first state = second state
  further : second.Ensures state fun result final =>
    idle result ∨ final.ahead.length < state.ahead.length

/-- In the state the two parsers do the same, and they have read a word when they succeed. -/
abbrev Advance (state : ParserState) (first second : Parser α) : Prop :=
  Alike (fun _ => False) state first second

/-- The next word is taken, and behind it fewer remain. -/
theorem length_advance {state : ParserState} (some : state.kind ≠ .endOfFile) :
    state.advance.ahead.length < state.ahead.length := by
  obtain ⟨token, _, ahead⟩ := ParserState.ahead_of_kind rfl some
  rw [ahead]
  exact Nat.lt_succ_self _

/-- Behind a word that has been read, fewer words remain for all that follows. -/
theorem Forward.fewer {parser : Parser α} [Forward parser] {idle : α → Prop}
    {state middle : ParserState} (fewer : middle.ahead.length < state.ahead.length) :
    parser.Ensures middle fun result final =>
      idle result ∨ final.ahead.length < state.ahead.length := by
  apply ensures_of_ok
  intro result final run
  exact .inr (Nat.lt_of_le_of_lt (Forward.length_le run) fewer)

namespace Alike

variable {idle : β → Prop} {state : ParserState}

/-- Behind a word that has been read the readers agree. -/
theorem bind {first second : Parser α} {next next' : α → Parser β}
    (advance : Advance state first second) (meet : Meet left right state.ahead.length)
    (parallel : ∀ result, Parallel left right (next result) (next' result)) :
    Alike idle state (first >>= next) (second >>= next') where
  same := by
    apply bind_congr advance.same
    intro result middle run
    exact (parallel result).alike meet ((advance.further.of_ok run).resolve_left id)
  further := by
    have each := meet.forward
    rw [Ensures, ends_bind]
    apply advance.further.weaken
    intro result middle fewer
    have forward := (parallel result).forward
    exact Forward.fewer (fewer.resolve_left id)

/-- A look at the words ahead changes nothing. -/
theorem look {parser : Parser α} {found : α} {next next' : α → Parser β}
    (run : parser state = .ok found state) (alike : Alike idle state (next found) (next' found)) :
    Alike idle state (parser >>= next) (parser >>= next') where
  same := by
    apply bind_congr rfl
    intro result middle looked
    rw [run] at looked
    cases looked
    exact alike.same
  further := by
    rw [Ensures, ends_bind, Ends, run]
    exact alike.further

theorem peek {next next' : Kind → Parser β}
    (alike : Alike idle state (next state.kind) (next' state.kind)) :
    Alike idle state (Parser.peek >>= next) (Parser.peek >>= next') :=
  look rfl alike

theorem peekSecond {next next' : Kind → Parser β}
    (alike : Alike idle state (next state.secondKind) (next' state.secondKind)) :
    Alike idle state (Parser.peekSecond >>= next) (Parser.peekSecond >>= next') :=
  look rfl alike

theorem at? {kind : Kind} {yes yes' no no' : Parser β}
    (alikeYes : state.kind = kind → Alike idle state yes yes')
    (alikeNo : state.kind ≠ kind → Alike idle state no no') :
    Alike idle state (Parser.at? kind >>= fun found => if found then yes else no)
      (Parser.at? kind >>= fun found => if found then yes' else no') := by
  have looked : Parser.at? kind state = .ok (state.kind == kind) state := rfl
  apply look looked
  by_cases found : state.kind = kind
  · rw [beq_iff_eq.2 found, if_pos rfl, if_pos rfl]
    exact alikeYes found
  · rw [beq_eq_false_iff_ne.2 found, if_neg nofun, if_neg nofun]
    exact alikeNo found

theorem atAny {kinds : List Kind} {yes yes' no no' : Parser β}
    (alikeYes : state.kind ∈ kinds → Alike idle state yes yes')
    (alikeNo : state.kind ∉ kinds → Alike idle state no no') :
    Alike idle state (Parser.atAny kinds >>= fun found => if found then yes else no)
      (Parser.atAny kinds >>= fun found => if found then yes' else no') := by
  have looked : Parser.atAny kinds state = .ok (kinds.contains state.kind) state := rfl
  apply look looked
  by_cases found : state.kind ∈ kinds
  · rw [List.contains_iff_mem.2 found, if_pos rfl, if_pos rfl]
    exact alikeYes found
  · rw [Bool.eq_false_iff.2 fun contains => found (List.contains_iff_mem.1 contains),
      if_neg nofun, if_neg nofun]
    exact alikeNo found

theorem takeDoc {next next' : List Comment → Parser β}
    (alike : ∀ comments doc, Alike idle (state.setComments comments) (next doc) (next' doc)) :
    Alike idle state (Parser.takeDoc >>= next) (Parser.takeDoc >>= next') where
  same := by
    apply bind_congr rfl
    intro result middle taken
    cases taken
    exact (alike _ _).same
  further := by
    rw [Ensures, ends_bind, ends_takeDoc]
    exact (alike _ _).further

theorem pure {result : β} (nothing : idle result) :
    Alike idle state (Pure.pure result) (Pure.pure result) :=
  ⟨rfl, .inl nothing⟩

theorem fail {fault : SyntaxFault} :
    Alike idle state (Parser.fail fault : Parser β) (Parser.fail fault) :=
  ⟨rfl, trivial⟩

theorem ite {condition : Prop} [Decidable condition] {yes yes' no no' : Parser β}
    (alikeYes : condition → Alike idle state yes yes')
    (alikeNo : ¬condition → Alike idle state no no') :
    Alike idle state (if condition then yes else no) (if condition then yes' else no') := by
  split
  · exact alikeYes ‹_›
  · exact alikeNo ‹_›

/-- If a word of the category is taken, the readers agree behind it. -/
theorem eat {kind : Kind} {yes yes' no no' : Parser β} (some : kind ≠ .endOfFile)
    (meet : Meet left right state.ahead.length) (parallel : Parallel left right yes yes')
    (alike : state.kind ≠ kind → Alike idle state no no') :
    Alike idle state (Parser.eat kind >>= fun found => if found then yes else no)
      (Parser.eat kind >>= fun found => if found then yes' else no') where
  same := by
    have ends : (Parser.eat kind).Ensures state fun found middle =>
        (if found then yes else no) middle = (if found then yes' else no') middle := by
      rw [Ensures, ends_eat]
      constructor
      · exact fun isKind => parallel.alike meet (length_advance (isKind ▸ some))
      · exact fun other => (alike other).same
    exact bind_congr rfl fun found middle run => ends.of_ok run
  further := by
    have each := meet.forward
    rw [Ensures, ends_bind, ends_eat]
    constructor
    · intro isKind
      have forward := parallel.forward
      rw [if_pos rfl]
      exact Forward.fewer (length_advance (isKind ▸ some))
    · exact fun other => (alike other).further

end Alike

namespace Advance

variable {state : ParserState}

theorem bump (some : state.kind ≠ .endOfFile) : Advance state bump bump where
  same := rfl
  further := .inr (length_advance some)

theorem expect {kind : Kind} (some : kind ≠ .endOfFile) :
    Advance state (expect kind) (expect kind) where
  same := rfl
  further := ends_expect.2 ⟨fun found => .inr (length_advance (found ▸ some)), fun _ => trivial⟩

theorem ident : Advance state ident ident where
  same := rfl
  further :=
    ends_ident.2 ⟨fun found => .inr (length_advance (found ▸ by decide)), fun _ => trivial⟩

end Advance

end Parser

open GoMend.Parser

namespace Grammar

-- An instance is put together from one instance for each step of the parser.
set_option synthInstance.maxSize 2000

variable {left right : Reader} {state : ParserState}
  (meet : Meet left right state.ahead.length)

include meet

/-! ## Types -/

theorem alike_typeName : Advance state typeName typeName :=
  Advance.ident.bind meet fun _ => inferInstance

theorem alike_identTail : Alike (· = []) state (identTail left) (identTail right) := by
  apply Alike.eat (by decide) meet inferInstance
  exact fun _ => .pure rfl

theorem alike_identList : Advance state (identList left) (identList right) :=
  Advance.ident.bind meet fun _ => inferInstance

theorem alike_paramType (type : Advance state (left .type) (right .type)) :
    Advance state (paramType left) (paramType right) := by
  apply Alike.eat (by decide) meet inferInstance
  exact fun _ => type

theorem alike_params (type : Advance state (left .type) (right .type)) :
    Alike (· = []) state (params left) (params right) := by
  apply Alike.atAny
  · exact fun _ => .pure rfl
  · intro _
    exact (alike_paramType meet type).bind meet fun _ => inferInstance

theorem alike_structFieldHead :
    Advance state (structFieldHead left) (structFieldHead right) := by
  apply Alike.peek
  apply Alike.peekSecond
  apply Alike.ite
  · intro isStar
    exact (Advance.bump (by rw [isStar]; decide)).bind meet fun _ => inferInstance
  · intro _
    apply Alike.ite
    · intro _
      exact (alike_typeName meet).bind meet fun _ => inferInstance
    · intro _
      exact (alike_identList meet).bind meet fun _ => inferInstance

theorem alike_structFields : Alike (· = []) state (structFields left) (structFields right) := by
  apply Alike.atAny
  · exact fun _ => .pure rfl
  · intro _
    apply Alike.takeDoc
    intro comments doc
    have here : Meet left right (state.setComments comments).ahead.length := meet
    exact (alike_structFieldHead here).bind meet fun _ => inferInstance

theorem alike_interfaceMemberHead (type : Advance state (left .type) (right .type)) :
    Advance state (interfaceMemberHead left) (interfaceMemberHead right) := by
  apply Alike.peek
  apply Alike.peekSecond
  apply Alike.ite
  · intro _
    exact Advance.ident.bind meet fun _ => inferInstance
  · intro _
    exact type.bind meet fun _ => inferInstance

theorem alike_interfaceMembers
    (type : ∀ comments, Advance (state.setComments comments) (left .type) (right .type)) :
    Alike (· = []) state (interfaceMembers left) (interfaceMembers right) := by
  apply Alike.atAny
  · exact fun _ => .pure rfl
  · intro _
    apply Alike.takeDoc
    intro comments doc
    have here : Meet left right (state.setComments comments).ahead.length := meet
    exact (alike_interfaceMemberHead here (type comments)).bind meet fun _ => inferInstance

theorem alike_arrayLength : Advance state (arrayLength left) (arrayLength right) :=
  (Advance.expect (by decide)).bind meet fun _ => inferInstance

/-- A type begins with a word of its own. -/
theorem alike_type : Advance state (Grammar.type left) (Grammar.type right) := by
  apply Alike.peek
  generalize isKind : state.kind = kind
  have word : kind ≠ .endOfFile → Advance state bump bump := fun some =>
    .bump (isKind ▸ some)
  split
  case h_1 => exact alike_typeName meet
  case h_3 => exact (alike_arrayLength meet).bind meet fun _ => inferInstance
  case h_11 => exact .fail
  all_goals exact (word (by decide)).bind meet fun _ => inferInstance

/-! ## Expressions -/

theorem alike_exprTail : Alike (· = []) state (exprTail left) (exprTail right) := by
  apply Alike.eat (by decide) meet inferInstance
  exact fun _ => .pure rfl

theorem alike_binary (floor : Nat) (unary : Advance state (left .unary) (right .unary)) :
    Advance state (binary left floor) (binary right floor) :=
  unary.bind meet fun _ => inferInstance

theorem alike_binaryTail (floor : Nat) (operand : Expr) :
    Alike (· = operand) state (binaryTail left floor operand) (binaryTail right floor operand) := by
  apply Alike.peek
  split
  · rename_i op isOp
    apply Alike.ite
    · exact fun _ => .pure rfl
    · intro _
      have word : Advance state bump bump := by
        apply Advance.bump
        intro ends
        rw [ends] at isOp
        cases isOp
      exact word.bind meet fun _ => inferInstance
  · exact .pure rfl

theorem alike_compositeBody (type : Option Expr) :
    Advance state (compositeBody left type) (compositeBody right type) :=
  (Advance.expect (by decide)).bind meet fun _ => inferInstance

theorem alike_element (expr : Advance state (left (.binary 1)) (right (.binary 1))) :
    Advance state (element left) (element right) := by
  apply Alike.at?
  · exact fun _ => alike_compositeBody meet none
  · exact fun _ => expr

theorem alike_elements (element : Advance state (left .element) (right .element)) :
    Alike (· = []) state (elements left) (elements right) := by
  apply Alike.atAny
  · exact fun _ => .pure rfl
  · intro _
    exact element.bind meet fun _ => inferInstance

theorem alike_exprOrType (type : Advance state (left .type) (right .type))
    (expr : Advance state (left (.binary 1)) (right (.binary 1))) :
    Advance state (exprOrType left) (exprOrType right) := by
  apply Alike.atAny
  · intro _
    exact type.bind meet fun _ => inferInstance
  · exact fun _ => expr

theorem alike_operand (type : Advance state (left .type) (right .type)) :
    Advance state (operand left) (operand right) := by
  apply Alike.peek
  generalize isKind : state.kind = kind
  split
  case h_1 => exact Advance.ident.bind meet fun _ => inferInstance
  case h_2 | h_3 => exact (Advance.bump (by rw [isKind]; decide)).bind meet fun _ => inferInstance
  case h_9 =>
    split
    · rename_i isLiteral
      have word : Advance state bump bump := by
        apply Advance.bump
        intro ends
        rw [← isKind, ends] at isLiteral
        cases isLiteral
      exact word.bind meet fun _ => inferInstance
    · exact .fail
  all_goals exact type

theorem alike_unary (type : Advance state (left .type) (right .type)) :
    Advance state (unary left) (unary right) := by
  apply Alike.peek
  apply Alike.ite
  · intro isStar
    exact (Advance.bump (by rw [isStar]; decide)).bind meet fun _ => inferInstance
  · intro _
    apply Alike.peekSecond
    apply Alike.ite
    · intro _
      exact type.bind meet fun _ => inferInstance
    · intro _
      split
      · rename_i isOp
        have word : Advance state bump bump := by
          apply Advance.bump
          intro ends
          rw [ends] at isOp
          cases isOp
        exact word.bind meet fun _ => inferInstance
      · exact (alike_operand meet type).bind meet fun _ => inferInstance

theorem alike_arguments (type : Advance state (left .type) (right .type))
    (expr : Advance state (left (.binary 1)) (right (.binary 1))) :
    Alike (·.1 = []) state (arguments left) (arguments right) := by
  apply Alike.atAny
  · exact fun _ => .pure rfl
  · intro _
    exact (alike_exprOrType meet type expr).bind meet fun _ => inferInstance

theorem alike_selectorOrAssertion (base : Expr) :
    Advance state (selectorOrAssertion left base) (selectorOrAssertion right base) :=
  (Advance.expect (by decide)).bind meet fun _ => by dsimp only; infer_instance

theorem alike_primaryTail (base : Expr) :
    Alike (· = base) state (primaryTail left base) (primaryTail right base) := by
  apply Alike.peek
  generalize isKind : state.kind = kind
  split
  · exact (alike_selectorOrAssertion meet base).bind meet fun _ => inferInstance
  · exact (Advance.bump (by rw [isKind]; decide)).bind meet fun _ => inferInstance
  · exact (Advance.bump (by rw [isKind]; decide)).bind meet fun _ => inferInstance
  · have now : (get : Parser ParserState) state = .ok state state := rfl
    apply Alike.look now
    apply Alike.ite
    · intro _
      exact (alike_compositeBody meet (some base)).bind meet fun _ => inferInstance
    · exact fun _ => .pure rfl
  · exact .pure rfl

/-! ## Statements -/

theorem alike_simple (expr : Advance state (left (.binary 1)) (right (.binary 1))) :
    Advance state (simple left) (simple right) :=
  expr.bind meet fun _ => inferInstance

theorem alike_block : Advance state (block left) (block right) :=
  (Advance.expect (by decide)).bind meet fun _ => inferInstance

theorem alike_stmts
    (stmt : ∀ comments, Advance (state.setComments comments) (left .stmt) (right .stmt)) :
    Alike (· = []) state (stmts left) (stmts right) := by
  apply Alike.atAny
  · exact fun _ => .pure rfl
  · intro _
    apply Alike.eat (by decide) meet inferInstance
    intro _
    apply Alike.takeDoc
    intro comments doc
    exact (stmt comments).bind meet fun _ => inferInstance

theorem alike_conditional : Advance state (conditional left) (conditional right) :=
  (Advance.expect (by decide)).bind meet fun _ => inferInstance

theorem alike_switch : Advance state (switch left) (switch right) := by
  apply (Advance.expect (by decide)).bind meet
  intro _
  refine .restored (-1) (fun _ => inferInstance) fun header => ?_
  refine .after fun _ => .after fun clauses => .after fun _ => ?_
  split <;> infer_instance

theorem alike_select : Advance state (select left) (select right) :=
  (Advance.expect (by decide)).bind meet fun _ => inferInstance

theorem alike_loop : Advance state (loop left) (loop right) := by
  rw [loop_eq, loop_eq]
  apply (Advance.expect (by decide)).bind meet
  intro _
  refine .restored (-1) (fun saved => inferInstance) fun header => ?_
  split <;> infer_instance

/-- A clause begins with one of its keywords. -/
theorem alike_caseClauses : Alike (· = []) state (caseClauses left) (caseClauses right) := by
  apply Alike.atAny
  · intro opens
    apply Alike.takeDoc
    intro comments doc
    have word : Advance (state.setComments comments) bump bump :=
      .bump fun ends => absurd (ends ▸ opens) (by decide)
    exact word.bind meet fun _ => inferInstance
  · exact fun _ => .pure rfl

theorem alike_commClauses : Alike (· = []) state (commClauses left) (commClauses right) := by
  apply Alike.atAny
  · intro opens
    apply Alike.takeDoc
    intro comments doc
    have word : Advance (state.setComments comments) bump bump :=
      .bump fun ends => absurd (ends ▸ opens) (by decide)
    exact word.bind meet fun _ => inferInstance
  · exact fun _ => .pure rfl

/-! ## Declarations -/

theorem alike_genDecl (some : state.kind ≠ .endOfFile) (keyword : DeclKeyword)
    (doc : List Comment) : Advance state (genDecl left keyword doc) (genDecl right keyword doc) :=
  (Advance.bump some).bind meet fun _ => inferInstance

omit meet in
/-- A name in front of the path may be missing, the path may not. -/
theorem alike_importSpec (doc : List Comment) :
    Advance state (importSpec doc) (importSpec doc) where
  same := rfl
  further := by
    rw [importSpec, Ensures, ends_bind]
    apply ensures_of_ok
    intro name middle run
    have fewer := Forward.length_le run
    rw [ends_bind, ends_expect]
    constructor
    · intro isPath
      have some : middle.kind ≠ .endOfFile := by
        rw [isPath]
        decide
      exact Forward.fewer (Nat.lt_of_lt_of_le (length_advance some) fewer)
    · exact fun _ => trivial

theorem alike_valueSpec (doc : List Comment) :
    Advance state (valueSpec left doc) (valueSpec right doc) :=
  (alike_identList meet).bind meet fun _ => by dsimp only; infer_instance

theorem alike_typeSpec (doc : List Comment) :
    Advance state (typeSpec left doc) (typeSpec right doc) :=
  Advance.ident.bind meet fun _ => inferInstance

theorem alike_spec (keyword : DeclKeyword) (doc : List Comment) :
    Advance state (spec left keyword doc) (spec right keyword doc) := by
  cases keyword with
  | imports => exact (alike_importSpec doc).bind meet fun _ => inferInstance
  | consts | vars => exact (alike_valueSpec meet doc).bind meet fun _ => inferInstance
  | types => exact (alike_typeSpec meet doc).bind meet fun _ => inferInstance

theorem alike_specs (keyword : DeclKeyword) :
    Alike (· = []) state (specs left keyword) (specs right keyword) := by
  apply Alike.atAny
  · exact fun _ => .pure rfl
  · intro _
    apply Alike.takeDoc
    intro comments doc
    have here : Meet left right (state.setComments comments).ahead.length := meet
    exact (alike_spec here keyword doc).bind meet fun _ => inferInstance

theorem alike_funcDecl (doc : List Comment) :
    Advance state (funcDecl left doc) (funcDecl right doc) :=
  (Advance.expect (by decide)).bind meet fun _ => by dsimp only; infer_instance

theorem alike_stmt (block : Advance state (left .block) (right .block))
    (conditional : Advance state (left .conditional) (right .conditional))
    (expr : Advance state (left (.binary 1)) (right (.binary 1))) :
    Advance state (stmt left) (stmt right) := by
  apply Alike.peek
  generalize isKind : state.kind = kind
  have word : kind ≠ .endOfFile → Advance state bump bump := fun some => .bump (isKind ▸ some)
  have declares : kind ≠ .endOfFile → ∀ keyword,
      Advance state (genDecl left keyword []) (genDecl right keyword []) :=
    fun some keyword => alike_genDecl meet (isKind ▸ some) keyword []
  split
  case h_1 | h_2 | h_3 => exact (declares (by decide) _).bind meet fun _ => inferInstance
  case h_11 => exact block.bind meet fun _ => inferInstance
  case h_12 => exact conditional
  case h_13 => exact alike_switch meet
  case h_14 => exact alike_select meet
  case h_15 => exact alike_loop meet
  case h_16 =>
    apply Alike.peekSecond
    apply Alike.ite
    · intro _
      exact Advance.ident.bind meet fun _ => inferInstance
    · exact fun _ => alike_simple meet expr
  all_goals exact (word (by decide)).bind meet fun _ => inferInstance

theorem alike_imports : Alike (· = []) state (imports left) (imports right) := by
  apply Alike.at?
  · intro isImport
    apply Alike.takeDoc
    intro comments doc
    have here : Meet left right (state.setComments comments).ahead.length := meet
    have some : (state.setComments comments).kind ≠ .endOfFile := by
      rw [ParserState.kind_setComments, isImport]
      decide
    exact (alike_genDecl here some .imports doc).bind meet fun _ => inferInstance
  · exact fun _ => .pure rfl

theorem alike_decl (doc : List Comment) :
    Advance state (decl left doc) (decl right doc) := by
  apply Alike.peek
  generalize isKind : state.kind = kind
  have declares : kind ≠ .endOfFile → ∀ keyword,
      Advance state (genDecl left keyword doc) (genDecl right keyword doc) :=
    fun some keyword => alike_genDecl meet (isKind ▸ some) keyword doc
  split
  case h_1 | h_2 | h_3 => exact (declares (by decide) _).bind meet fun _ => inferInstance
  case h_4 => exact (alike_funcDecl meet doc).bind meet fun _ => inferInstance
  all_goals exact .fail

theorem alike_decls : Alike (· = []) state (decls left) (decls right) := by
  apply Alike.at?
  · exact fun _ => .pure rfl
  · intro _
    apply Alike.takeDoc
    intro comments doc
    have here : Meet left right (state.setComments comments).ahead.length := meet
    exact (alike_decl here doc).bind meet fun _ => inferInstance

theorem alike_file : Advance state (file left) (file right) := by
  apply Alike.takeDoc
  intro comments doc
  have word : Advance (state.setComments comments) (expect .packageKw) (expect .packageKw) :=
    .expect (by decide)
  exact word.bind meet fun _ => inferInstance

end Grammar

end GoMend
