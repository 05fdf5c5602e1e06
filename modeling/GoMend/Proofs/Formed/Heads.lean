import GoMend.Proofs.Token.Names
import GoMend.Grammar.Reading

/-!
# Heads of functions

What stands behind the keyword of a function is its head: a receiver and a name if it is declared,
and its signature.  A head is made of words, each of its lists of the entries between the commas.
The functions of a tree, those inside of others included, are listed in the order of their keywords,
so each of them can be held against the words at its own place.
-/

namespace GoMend

/-- The parser reads just the words, somewhere, and gives the result. -/
def Parser.Consumes {α : Type} (parser : Parser α) (words : List Token) (result : α) : Prop :=
  ∃ state final, parser state = .ok result final ∧ state.ahead = words ++ final.ahead

/-! ## Lists of a signature -/

/-- The words of an entry of a list: a type, or a name and its type. -/
inductive IsParamEntry : List Token → Expr × Option Expr → Prop
  | plain {bound : Nat} {words : List Token} {type : Expr}
      (reads : (Grammar.paramType (Production.read bound)).Consumes words type) :
      IsParamEntry words (type, none)
  | named {bound : Nat} {first words : List Token} {name type : Expr}
      (readsName : (Grammar.paramType (Production.read bound)).Consumes first name)
      (readsType : (Grammar.paramType (Production.read bound)).Consumes words type) :
      IsParamEntry (first ++ words) (name, some type)

/-- The words of entries with commas between them, and perhaps one behind the last. -/
inductive ParamEntries : List Token → List (Expr × Option Expr) → Prop
  | none : ParamEntries [] []
  | last {words : List Token} {entry : Expr × Option Expr} (isEntry : IsParamEntry words entry) :
      ParamEntries words [entry]
  | more {words rest : List Token} {comma : Token} {entry : Expr × Option Expr}
      {others : List (Expr × Option Expr)} (isEntry : IsParamEntry words entry)
      (parts : comma.kind = .comma) (further : ParamEntries rest others) :
      ParamEntries (words ++ comma :: rest) (entry :: others)

/-- The words make the list: entries in parentheses, as many as the fields have names and unnamed
types. -/
inductive FieldList.MadeOf : FieldList → List Token → Prop
  | enclosed {words : List Token} {opening close : Token} {entries : List (Expr × Option Expr)}
      {fields : List Field} (opens : opening.kind = .leftParen)
      (listed : ParamEntries words entries) (closes : close.kind = .rightParen)
      (grouped : Grammar.groupParams? entries = some fields)
      (counted : FieldList.arity ⟨fields, []⟩ = entries.length) :
      FieldList.MadeOf ⟨fields, []⟩ (opening :: (words ++ [close]))

/-- The words make the parameters and the results: nothing, a list of them, or the type of a single
one without parentheses. -/
inductive Signature.MadeOf : Signature → List Token → Prop
  | plain {words : List Token} {params : FieldList} (taking : params.MadeOf words) :
      Signature.MadeOf ⟨params, none⟩ words
  | listed {before behind : List Token} {params results : FieldList}
      (taking : params.MadeOf before) (giving : results.MadeOf behind) :
      Signature.MadeOf ⟨params, some results⟩ (before ++ behind)
  | single {bound : Nat} {before behind : List Token} {params : FieldList} {type : Expr}
      (taking : params.MadeOf before) (reads : (Production.read bound .type).Consumes behind type) :
      Signature.MadeOf ⟨params, some ⟨[Grammar.unnamedField type], []⟩⟩ (before ++ behind)

/-! ## Heads -/

/-- The head of a function: receiver and name of one that is declared, and the signature. -/
structure Head where
  receiver : Option FieldList
  name : Option Ident
  signature : Signature

/-- The head of a function type or of a function without a name. -/
def Head.anonymous (signature : Signature) : Head :=
  ⟨none, none, signature⟩

/-- The head of a declared function or method. -/
def FuncDecl.head (decl : FuncDecl) : Head :=
  ⟨decl.receiver, some decl.name, decl.signature⟩

/-- The words make the head. -/
inductive Head.MadeOf : Head → List Token → Prop
  | anonymous {words : List Token} {signature : Signature} (signed : signature.MadeOf words) :
      Head.MadeOf (.anonymous signature) words
  | function {name : Token} {words : List Token} {signature : Signature}
      (named : name.kind = .identifier) (signed : signature.MadeOf words) :
      Head.MadeOf ⟨none, some name.toIdent, signature⟩ (name :: words)
  | method {before words : List Token} {name : Token} {receiver : FieldList}
      {signature : Signature} (received : receiver.MadeOf before)
      (named : name.kind = .identifier) (signed : signature.MadeOf words) :
      Head.MadeOf ⟨some receiver, some name.toIdent, signature⟩ (before ++ name :: words)

/-- The first words make the head. -/
def Head.Begins (words : List Token) (head : Head) : Prop :=
  ∃ own, own <+: words ∧ head.MadeOf own

/-- What stands behind each keyword of a function. -/
def Lexed.behindKeywords : List Token → List (List Token)
  | [] => []
  | token :: rest =>
      if token.kind = .funcKw then rest :: behindKeywords rest else behindKeywords rest

/-! ## The heads in a tree -/

mutual

/-- The heads in an expression or a type. -/
@[simp] def Expr.heads : Expr → List Head
  | .ident _ => []
  | .literal _ => []
  | .composite type elements _ =>
      (match type with
        | some type => type.heads
        | none => []) ++ Expr.headsAll elements
  | .function signature body => .anonymous signature :: (signature.heads ++ body.heads)
  | .paren inner => inner.heads
  | .selector base _ => base.heads
  | .index base position => base.heads ++ position.heads
  | .slice base low high max =>
      base.heads ++
      (match low with
        | some low => low.heads
        | none => []) ++
      (match high with
        | some high => high.heads
        | none => []) ++
      (match max with
        | some max => max.heads
        | none => [])
  | .assertion base type =>
      base.heads ++
      (match type with
        | some type => type.heads
        | none => [])
  | .call callee arguments _ => callee.heads ++ Expr.headsAll arguments
  | .star inner => inner.heads
  | .unary _ operand => operand.heads
  | .binary left _ right => left.heads ++ right.heads
  | .keyValue key value => key.heads ++ value.heads
  | .arrayType length element => length.heads ++ element.heads
  | .mapType key value => key.heads ++ value.heads
  | .chanType _ element => element.heads
  | .funcType signature => .anonymous signature :: signature.heads
  | .structType fields => fields.heads false
  | .interfaceType methods => methods.heads true
  | .variadic element => element.heads
termination_by structural expr => expr

/-- The heads in a list of expressions. -/
@[simp] def Expr.headsAll : List Expr → List Head
  | [] => []
  | expr :: rest => expr.heads ++ Expr.headsAll rest
termination_by structural exprs => exprs

/-- The heads in the length of an array type. -/
@[simp] def ArrayLength.heads : ArrayLength → List Head
  | .slice => []
  | .inferred => []
  | .fixed size => size.heads
termination_by structural length => length

/-- The heads in a field.  The signature of a method stands behind its name and not behind the
keyword of a function. -/
@[simp] def Field.heads (methods : Bool) : Field → List Head
  | ⟨_, names, type, _, _⟩ =>
      if methods && !names.isEmpty then type.heads.tail else type.heads
termination_by structural field => field

/-- The heads in the fields of a list. -/
@[simp] def Field.headsAll (methods : Bool) : List Field → List Head
  | [] => []
  | field :: rest => field.heads methods ++ Field.headsAll methods rest
termination_by structural fields => fields

/-- The heads in a bracketed list of fields. -/
@[simp] def FieldList.heads (methods : Bool) : FieldList → List Head
  | ⟨fields, _⟩ => Field.headsAll methods fields
termination_by structural list => list

/-- The heads in the parameters and results of a function. -/
@[simp] def Signature.heads : Signature → List Head
  | ⟨params, results⟩ =>
      params.heads false ++
      (match results with
        | some results => results.heads false
        | none => [])
termination_by structural signature => signature

/-- The heads in an entry of a constant or variable declaration. -/
@[simp] def ValueSpec.heads : ValueSpec → List Head
  | ⟨_, _, type, values, _⟩ =>
      (match type with
        | some type => type.heads
        | none => []) ++ Expr.headsAll values
termination_by structural spec => spec

/-- The heads in an entry of a type declaration. -/
@[simp] def TypeSpec.heads : TypeSpec → List Head
  | ⟨_, _, _, type, _⟩ => type.heads
termination_by structural spec => spec

/-- The heads in an entry of a declaration. -/
@[simp] def Spec.heads : Spec → List Head
  | .imported _ => []
  | .value spec => spec.heads
  | .type spec => spec.heads
termination_by structural spec => spec

/-- The heads in the entries of a declaration. -/
@[simp] def Spec.headsAll : List Spec → List Head
  | [] => []
  | spec :: rest => spec.heads ++ Spec.headsAll rest
termination_by structural specs => specs

/-- The heads in a declaration with entries. -/
@[simp] def GenDecl.heads : GenDecl → List Head
  | ⟨_, _, _, specs, _⟩ => Spec.headsAll specs
termination_by structural decl => decl

/-- The heads in a block. -/
@[simp] def Block.heads : Block → List Head
  | ⟨stmts, _⟩ => Stmt.headsAll stmts
termination_by structural block => block

/-- The heads in a list of statements. -/
@[simp] def Stmt.headsAll : List Stmt → List Head
  | [] => []
  | stmt :: rest => stmt.heads ++ Stmt.headsAll rest
termination_by structural stmts => stmts

/-- The heads in a statement. -/
@[simp] def Stmt.heads : Stmt → List Head
  | ⟨_, kind, _⟩ => kind.heads
termination_by structural stmt => stmt

/-- The heads in a statement without its comments. -/
@[simp] def StmtKind.heads : StmtKind → List Head
  | .decl decl => decl.heads
  | .empty => []
  | .labeled _ stmt => stmt.heads
  | .expr expr => expr.heads
  | .send channel value => channel.heads ++ value.heads
  | .incDec operand _ => operand.heads
  | .assign targets _ values => Expr.headsAll targets ++ Expr.headsAll values
  | .go call => call.heads
  | .defer call => call.heads
  | .ret results => Expr.headsAll results
  | .branch _ _ => []
  | .block block => block.heads
  | .conditional init condition body alternative =>
      (match init with
        | some init => init.heads
        | none => []) ++
      condition.heads ++ body.heads ++
      (match alternative with
        | some alternative => alternative.heads
        | none => [])
  | .switch init tag clauses =>
      (match init with
        | some init => init.heads
        | none => []) ++
      (match tag with
        | some tag => tag.heads
        | none => []) ++
      CaseClause.headsAll clauses
  | .typeSwitch init _ subject clauses =>
      (match init with
        | some init => init.heads
        | none => []) ++
      subject.heads ++ CaseClause.headsAll clauses
  | .select clauses => CommClause.headsAll clauses
  | .loop init condition post body =>
      (match init with
        | some init => init.heads
        | none => []) ++
      (match condition with
        | some condition => condition.heads
        | none => []) ++
      (match post with
        | some post => post.heads
        | none => []) ++
      body.heads
  | .range key value _ subject body =>
      (match key with
        | some key => key.heads
        | none => []) ++
      (match value with
        | some value => value.heads
        | none => []) ++
      subject.heads ++ body.heads
termination_by structural kind => kind

/-- The heads in the clauses of a switch. -/
@[simp] def CaseClause.headsAll : List CaseClause → List Head
  | [] => []
  | ⟨_, list, body⟩ :: rest =>
      (match list with
        | some list => Expr.headsAll list
        | none => []) ++
      Stmt.headsAll body ++ CaseClause.headsAll rest
termination_by structural clauses => clauses

/-- The heads in the clauses of a select statement. -/
@[simp] def CommClause.headsAll : List CommClause → List Head
  | [] => []
  | ⟨_, comm, body⟩ :: rest =>
      (match comm with
        | some comm => comm.heads
        | none => []) ++
      Stmt.headsAll body ++ CommClause.headsAll rest
termination_by structural clauses => clauses

end

/-- The head of a function, and those inside of it. -/
@[simp] def FuncDecl.heads (decl : FuncDecl) : List Head :=
  decl.head :: ((decl.receiver.elim [] (·.heads false)) ++ decl.signature.heads ++
    decl.body.elim [] (·.heads))

/-- The heads in a top-level declaration. -/
@[simp] def Decl.heads : Decl → List Head
  | .gen decl => decl.heads
  | .func decl => decl.heads

/-- All heads in a file, in the order in which their keywords stand in it. -/
def File.heads (file : File) : List Head :=
  file.decls.flatMap (·.heads)

end GoMend
