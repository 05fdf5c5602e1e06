import GoMend.Proofs.Syntax.Pieces

/-!
# Comments of a layout

The comments that a tree is written with, in the order in which they are written.  They
are the comments among the pieces of its layout, whatever stands between them.
-/

namespace GoMend

namespace Piece

/-- The comment that a piece is. -/
def remark? : Piece → Option Comment
  | .comment remark => some remark
  | _ => none

/-- The comments among the pieces, in the order in which they are written. -/
def remarks (pieces : List Piece) : List Comment :=
  pieces.filterMap remark?

@[simp] theorem remarks_nil : remarks [] = [] := rfl

@[simp] theorem remarks_append (first second : List Piece) :
    remarks (first ++ second) = remarks first ++ remarks second :=
  List.filterMap_append

section

variable {rest : List Piece}

@[simp] theorem remarks_comment (remark : Comment) :
    remarks (.comment remark :: rest) = remark :: remarks rest := rfl

@[simp] theorem remarks_mark (kind : Kind) : remarks (.mark kind :: rest) = remarks rest := rfl

@[simp] theorem remarks_name (ident : Ident) : remarks (.name ident :: rest) = remarks rest := rfl

@[simp] theorem remarks_literal (literal : Literal) :
    remarks (.literal literal :: rest) = remarks rest := rfl

@[simp] theorem remarks_blank : remarks (.blank :: rest) = remarks rest := rfl

@[simp] theorem remarks_line : remarks (.line :: rest) = remarks rest := rfl

@[simp] theorem remarks_indent : remarks (.indent :: rest) = remarks rest := rfl

@[simp] theorem remarks_dedent : remarks (.dedent :: rest) = remarks rest := rfl

end

@[simp] theorem remarks_ite {condition : Prop} [Decidable condition] {yes no : List Piece} :
    remarks (if condition then yes else no) =
      if condition then remarks yes else remarks no :=
  apply_ite remarks condition yes no

@[simp] theorem remarks_doc (comments : List Comment) : remarks (doc comments) = comments := by
  induction comments with
  | nil => rfl
  | cons remark rest ih =>
      rw [doc, List.flatMap_cons, remarks_append, ← doc, ih]
      rfl

@[simp] theorem remarks_closing (comments : List Comment) :
    remarks (closing comments) = comments := by
  induction comments with
  | nil => rfl
  | cons remark rest ih =>
      rw [closing, List.flatMap_cons, remarks_append, ← closing, ih]
      rfl

@[simp] theorem remarks_trailing (remark : Option Comment) :
    remarks (trailing remark) = remark.toList := by
  cases remark <;> rfl

@[simp] theorem remarks_names (idents : List Ident) : remarks (names idents) = [] := by
  unfold names
  induction idents with
  | nil => rfl
  | cons first rest ih =>
      cases rest with
      | nil => rfl
      | cons second rest => exact ih

end Piece

open Piece (remarks)

/-! ## Comments of the parts of a tree -/

/-- The comments in an expression or a type. -/
abbrev Expr.remarks (expr : Expr) : List Comment :=
  Piece.remarks expr.pieces

/-- The comments in several expressions. -/
def Expr.remarksAll (exprs : List Expr) : List Comment :=
  exprs.flatMap Expr.remarks

/-- The comments in the parameters and results of a function. -/
abbrev Signature.remarks (signature : Signature) : List Comment :=
  Piece.remarks signature.pieces

/-- The comments in a block. -/
abbrev Block.remarks (block : Block) : List Comment :=
  Piece.remarks block.pieces

/-- The comments of an entry of a declaration. -/
abbrev Spec.remarks (spec : Spec) : List Comment :=
  Piece.remarks spec.pieces

/-- The comments in a statement without those around it. -/
abbrev StmtKind.remarks (kind : StmtKind) : List Comment :=
  Piece.remarks kind.pieces

/-- The comments of a statement. -/
abbrev Stmt.remarks (stmt : Stmt) : List Comment :=
  Piece.remarks stmt.pieces

/-- The comments of a top-level declaration. -/
abbrev Decl.remarks (decl : Decl) : List Comment :=
  Piece.remarks decl.pieces

/-- The comments of a field as a member of a struct or interface. -/
def Field.remarks (field : Field) : List Comment :=
  field.doc ++ field.type.remarks ++ field.comment.toList

namespace Expr

variable {rest : List Expr}

@[simp] theorem remarksAll_nil : remarksAll [] = [] := rfl

@[simp] theorem remarksAll_cons (expr : Expr) :
    remarksAll (expr :: rest) = expr.remarks ++ remarksAll rest :=
  rfl

@[simp] theorem remarks_tailPieces (exprs : List Expr) :
    Piece.remarks (tailPieces exprs) = remarksAll exprs := by
  induction exprs with
  | nil => rfl
  | cons expr rest ih => simp [tailPieces_cons, ih]

@[simp] theorem remarks_listPieces (exprs : List Expr) :
    Piece.remarks (listPieces exprs) = remarksAll exprs := by
  cases exprs with
  | nil => rfl
  | cons expr rest => simp [listPieces_cons]

@[simp] theorem remarks_linePieces (exprs : List Expr) :
    Piece.remarks (linePieces exprs) = remarksAll exprs := by
  induction exprs with
  | nil => rfl
  | cons expr rest ih => simp [linePieces_cons, ih]

@[simp] theorem remarks_piecesOf (expr : Option Expr) :
    Piece.remarks (piecesOf expr) = expr.elim [] remarks := by
  cases expr <;> rfl

@[simp] theorem remarks_ident (name : Ident) : (ident name).remarks = [] := rfl

@[simp] theorem remarks_literal (value : Literal) : (literal value).remarks = [] := rfl

@[simp] theorem remarks_composite (type : Option Expr) (elements : List Expr)
    (multiline : Bool) :
    (composite type elements multiline).remarks =
      type.elim [] remarks ++ remarksAll elements := by
  simp [remarks, pieces_composite, innerPieces]

@[simp] theorem remarks_function (signature : Signature) (body : Block) :
    (function signature body).remarks = signature.remarks ++ body.remarks := by
  simp [remarks, pieces_function]

@[simp] theorem remarks_paren (inner : Expr) : (paren inner).remarks = inner.remarks := by
  simp [remarks, pieces_paren]

@[simp] theorem remarks_selector (base : Expr) (name : Ident) :
    (selector base name).remarks = base.remarks := by
  simp [remarks, pieces_selector]

@[simp] theorem remarks_index (base position : Expr) :
    (index base position).remarks = base.remarks ++ position.remarks := by
  simp [remarks, pieces_index]

@[simp] theorem remarks_slice (base : Expr) (low high max : Option Expr) :
    (slice base low high max).remarks =
      base.remarks ++ low.elim [] remarks ++ high.elim [] remarks ++ max.elim [] remarks := by
  cases max <;> simp [remarks, pieces_slice, maxPieces]

@[simp] theorem remarks_assertion (base : Expr) (type : Option Expr) :
    (assertion base type).remarks = base.remarks ++ type.elim [] remarks := by
  cases type <;> simp [remarks, pieces_assertion, assertedPieces]

@[simp] theorem remarks_call (callee : Expr) (arguments : List Expr) (spread : Bool) :
    (call callee arguments spread).remarks = callee.remarks ++ remarksAll arguments := by
  simp [remarks, pieces_call]

@[simp] theorem remarks_star (inner : Expr) : (star inner).remarks = inner.remarks := rfl

@[simp] theorem remarks_unary (op : UnaryOp) (operand : Expr) :
    (unary op operand).remarks = operand.remarks := by
  simp [remarks, pieces_unary]

@[simp] theorem remarks_binary (left : Expr) (op : BinaryOp) (right : Expr) :
    (binary left op right).remarks = left.remarks ++ right.remarks := by
  simp [remarks, pieces_binary]

@[simp] theorem remarks_keyValue (key value : Expr) :
    (keyValue key value).remarks = key.remarks ++ value.remarks := by
  simp [remarks, pieces_keyValue]

@[simp] theorem remarks_arrayType (length : ArrayLength) (element : Expr) :
    (arrayType length element).remarks = Piece.remarks length.pieces ++ element.remarks := by
  simp [remarks, pieces_arrayType]

@[simp] theorem remarks_mapType (key value : Expr) :
    (mapType key value).remarks = key.remarks ++ value.remarks := by
  simp [remarks, pieces_mapType]

@[simp] theorem remarks_chanType (direction : ChanDirection) (element : Expr) :
    (chanType direction element).remarks = element.remarks := by
  cases direction <;> rfl

@[simp] theorem remarks_funcType (signature : Signature) :
    (funcType signature).remarks = signature.remarks :=
  rfl

@[simp] theorem remarks_variadic (element : Expr) :
    (variadic element).remarks = element.remarks :=
  rfl

end Expr

@[simp] theorem ArrayLength.remarks_slice : remarks ArrayLength.slice.pieces = [] := rfl

@[simp] theorem ArrayLength.remarks_inferred : remarks ArrayLength.inferred.pieces = [] := rfl

@[simp] theorem ArrayLength.remarks_fixed (size : Expr) :
    remarks (ArrayLength.fixed size).pieces = size.remarks := by
  simp [pieces_fixed]

/-! ## Fields -/

/-- The comments in the types of several fields. -/
def Field.typeRemarks (fields : List Field) : List Comment :=
  fields.flatMap (·.type.remarks)

/-- The comments of several fields as members of a struct or interface. -/
def Field.remarksAll (fields : List Field) : List Comment :=
  fields.flatMap Field.remarks

namespace Field

variable {rest : List Field}

@[simp] theorem typeRemarks_nil : typeRemarks [] = [] := rfl

@[simp] theorem typeRemarks_cons (field : Field) :
    typeRemarks (field :: rest) = field.type.remarks ++ typeRemarks rest :=
  rfl

@[simp] theorem remarksAll_nil : remarksAll [] = [] := rfl

@[simp] theorem remarksAll_cons (field : Field) :
    remarksAll (field :: rest) = field.remarks ++ remarksAll rest :=
  rfl

@[simp] theorem remarks_headPieces (names : List Ident) : Piece.remarks (headPieces names) = [] := by
  simp [headPieces]

@[simp] theorem remarks_tagPieces (tag : Option Literal) : Piece.remarks (tagPieces tag) = [] := by
  cases tag <;> rfl

@[simp] theorem remarks_paramPieces (field : Field) :
    Piece.remarks field.paramPieces = field.type.remarks := by
  obtain ⟨doc, names, type, tag, comment⟩ := field
  simp [paramPieces_mk]

@[simp] theorem remarks_paramTailPieces (fields : List Field) :
    Piece.remarks (paramTailPieces fields) = typeRemarks fields := by
  induction fields with
  | nil => rfl
  | cons field rest ih => simp [paramTailPieces_cons, Piece.comma, ih]

/-- However a member is written, its comments are those before it, in it and behind it. -/
@[simp] theorem remarks_memberPieces (methods : Bool) (field : Field) :
    Piece.remarks (field.memberPieces methods) = field.remarks := by
  obtain ⟨doc, names, type, tag, comment⟩ := field
  rcases names with _ | ⟨name, others⟩
  · simp [memberPieces_other methods doc [] type tag comment (.inl rfl), Field.remarks]
  by_cases isFunction : ∃ signature, type = .funcType signature
  · obtain ⟨signature, rfl⟩ := isFunction
    simp [memberPieces_funcType, Field.remarks]
  · have other : ∀ signature, type ≠ .funcType signature :=
      fun signature same => isFunction ⟨signature, same⟩
    simp [memberPieces_other methods doc (name :: others) type tag comment (.inr other),
      Field.remarks]

@[simp] theorem remarks_memberLines (methods : Bool) (fields : List Field) :
    Piece.remarks (memberLines methods fields) = remarksAll fields := by
  induction fields with
  | nil => rfl
  | cons field rest ih => simp [memberLines_cons, ih]

end Field

namespace FieldList

@[simp] theorem remarks_paramPieces (list : FieldList) :
    Piece.remarks list.paramPieces = Field.typeRemarks list.fields := by
  obtain ⟨_ | ⟨field, rest⟩, closing⟩ := list
  · rfl
  · simp [paramPieces_cons]

@[simp] theorem remarks_resultPieces (list : FieldList) :
    Piece.remarks list.resultPieces = Field.typeRemarks list.fields := by
  obtain ⟨_ | ⟨field, rest⟩, closing⟩ := list
  · rfl
  have several :
      Piece.remarks (.blank :: .mark .leftParen :: field.paramPieces ++
        Field.paramTailPieces rest ++ [Piece.mark .rightParen]) =
        Field.typeRemarks (field :: rest) := by
    simp
  obtain ⟨doc, _ | ⟨name, names⟩, type, tag, comment⟩ := field <;>
    cases rest <;> first | exact several | simp [resultPieces]

@[simp] theorem remarks_memberPieces (methods : Bool) (list : FieldList) :
    Piece.remarks (list.memberPieces methods) = Field.remarksAll list.fields ++ list.closing := by
  obtain ⟨fields, closing⟩ := list
  rw [memberPieces_mk]
  split
  · rename_i nothing
    simp only [Bool.and_eq_true, List.isEmpty_iff] at nothing
    simp [nothing]
  · simp

end FieldList

@[simp] theorem Signature.remarks_mk (params : FieldList) (results : Option FieldList) :
    (Signature.mk params results).remarks =
      Field.typeRemarks params.fields ++
        results.elim [] fun list => Field.typeRemarks list.fields := by
  cases results <;> simp [Signature.remarks, pieces_mk, FieldList.resultPiecesOf]

@[simp] theorem Expr.remarks_structType (fields : FieldList) :
    (structType fields).remarks = Field.remarksAll fields.fields ++ fields.closing := by
  simp [remarks, pieces_structType]

@[simp] theorem Expr.remarks_interfaceType (methods : FieldList) :
    (interfaceType methods).remarks = Field.remarksAll methods.fields ++ methods.closing := by
  simp [remarks, pieces_interfaceType]

/-! ## Declarations -/

/-- The comments of several entries. -/
def Spec.remarksAll (specs : List Spec) : List Comment :=
  specs.flatMap Spec.remarks

namespace Spec

@[simp] theorem remarksAll_nil : remarksAll [] = [] := rfl

@[simp] theorem remarksAll_cons (spec : Spec) (rest : List Spec) :
    remarksAll (spec :: rest) = spec.remarks ++ remarksAll rest :=
  rfl

@[simp] theorem remarks_imported (spec : ImportSpec) :
    (imported spec).remarks = spec.doc ++ spec.comment.toList := by
  obtain ⟨doc, name, path, comment⟩ := spec
  change Piece.remarks (ImportSpec.pieces _) = _
  cases name <;> simp [ImportSpec.pieces]

@[simp] theorem remarks_value (spec : ValueSpec) :
    (value spec).remarks =
      spec.doc ++ spec.type.elim [] Expr.remarks ++ Expr.remarksAll spec.values ++
        spec.comment.toList := by
  obtain ⟨doc, names, type, values, comment⟩ := spec
  change Piece.remarks (ValueSpec.pieces _) = _
  cases type <;> simp [ValueSpec.pieces_mk]

@[simp] theorem remarks_type (spec : TypeSpec) :
    (type spec).remarks = spec.doc ++ spec.type.remarks ++ spec.comment.toList := by
  obtain ⟨doc, name, isAlias, type, comment⟩ := spec
  change Piece.remarks (TypeSpec.pieces _) = _
  simp [TypeSpec.pieces_mk]

@[simp] theorem remarks_linePieces (specs : List Spec) :
    Piece.remarks (linePieces specs) = remarksAll specs := by
  induction specs with
  | nil => rfl
  | cons spec rest ih => simp [linePieces_cons, ih]

end Spec

/-- The comments of a declaration are its own and those of its entries. -/
@[simp] theorem GenDecl.remarks_pieces (decl : GenDecl) :
    remarks decl.pieces = decl.doc ++ Spec.remarksAll decl.specs := by
  obtain ⟨doc, keyword, grouped, specs, offset⟩ := decl
  have several : remarks (Piece.doc doc ++ .mark keyword.kind :: .blank :: .mark .leftParen ::
      .indent :: Spec.linePieces specs ++ [Piece.dedent, .line, .mark .rightParen]) =
      doc ++ Spec.remarksAll specs := by
    simp
  rcases grouped with _ | _
  · rcases specs with _ | ⟨spec, _ | ⟨other, rest⟩⟩
    · exact several
    · change remarks (Piece.doc doc ++ .mark keyword.kind :: .blank :: spec.pieces) = _
      simp
    · exact several
  · exact several

/-! ## Statements -/

/-- The comments of several statements. -/
def Stmt.remarksAll (stmts : List Stmt) : List Comment :=
  stmts.flatMap Stmt.remarks

/-- The comments of the clauses of a switch. -/
def CaseClause.remarksAll (clauses : List CaseClause) : List Comment :=
  clauses.flatMap fun clause =>
    clause.doc ++ clause.list.elim [] Expr.remarksAll ++ Stmt.remarksAll clause.body

/-- The comments of the clauses of a select statement. -/
def CommClause.remarksAll (clauses : List CommClause) : List Comment :=
  clauses.flatMap fun clause =>
    clause.doc ++ clause.comm.elim [] Stmt.remarks ++ Stmt.remarksAll clause.body

namespace Stmt

@[simp] theorem remarksAll_nil : remarksAll [] = [] := rfl

@[simp] theorem remarksAll_cons (stmt : Stmt) (rest : List Stmt) :
    remarksAll (stmt :: rest) = stmt.remarks ++ remarksAll rest :=
  rfl

@[simp] theorem remarks_mk (doc : List Comment) (kind : StmtKind) (comment : Option Comment) :
    (Stmt.mk doc kind comment).remarks = doc ++ kind.remarks ++ comment.toList := by
  simp [Stmt.remarks, pieces_mk]

@[simp] theorem remarks_bare (kind : StmtKind) : (bare kind).remarks = kind.remarks := by
  simp [bare]

@[simp] theorem remarks_linePieces (stmts : List Stmt) :
    Piece.remarks (linePieces stmts) = remarksAll stmts := by
  induction stmts with
  | nil => rfl
  | cons stmt rest ih => simp [linePieces_cons, ih]

end Stmt

@[simp] theorem Block.remarks_mk (stmts : List Stmt) (closing : List Comment) :
    (Block.mk stmts closing).remarks = Stmt.remarksAll stmts ++ closing := by
  rw [Block.remarks, pieces_mk]
  split
  · rename_i nothing
    simp only [Bool.and_eq_true, List.isEmpty_iff] at nothing
    simp [nothing]
  · simp

@[simp] theorem CaseClause.remarks_linePieces (clauses : List CaseClause) :
    remarks (linePieces clauses) = remarksAll clauses := by
  induction clauses with
  | nil => rfl
  | cons clause rest ih =>
      obtain ⟨doc, list, body⟩ := clause
      have same : linePieces (⟨doc, list, body⟩ :: rest) =
          .line :: Piece.doc doc ++
            list.elim [.mark .defaultKw] (.mark .caseKw :: .blank :: Expr.listPieces ·) ++
            .mark .colon :: .indent :: Stmt.linePieces body ++ .dedent :: linePieces rest := by
        cases list <;> rfl
      cases list <;> simp [same, ih, remarksAll]

@[simp] theorem CommClause.remarks_linePieces (clauses : List CommClause) :
    remarks (linePieces clauses) = remarksAll clauses := by
  induction clauses with
  | nil => rfl
  | cons clause rest ih =>
      obtain ⟨doc, comm, body⟩ := clause
      have same : linePieces (⟨doc, comm, body⟩ :: rest) =
          .line :: Piece.doc doc ++
            comm.elim [.mark .defaultKw] (.mark .caseKw :: .blank :: ·.pieces) ++
            .mark .colon :: .indent :: Stmt.linePieces body ++ .dedent :: linePieces rest := by
        cases comm <;> rfl
      cases comm <;> simp [same, ih, remarksAll]

namespace StmtKind

@[simp] theorem remarks_decl (decl : GenDecl) :
    (StmtKind.decl decl).remarks = decl.doc ++ Spec.remarksAll decl.specs :=
  decl.remarks_pieces

@[simp] theorem remarks_empty : empty.remarks = [] := rfl

@[simp] theorem remarks_labeled (label : Ident) (kind : StmtKind) :
    (labeled label (.bare kind)).remarks = kind.remarks := by
  change Piece.remarks (.name label :: .mark .colon ::
    (if kind.isEmpty then [] else .line :: (Stmt.bare kind).pieces)) = _
  cases kind <;> simp [isEmpty]

@[simp] theorem remarks_expr (value : Expr) : (StmtKind.expr value).remarks = value.remarks := rfl

@[simp] theorem remarks_send (channel value : Expr) :
    (send channel value).remarks = channel.remarks ++ value.remarks := by
  change Piece.remarks (channel.pieces ++ .blank :: .mark .arrow :: .blank :: value.pieces) = _
  simp

@[simp] theorem remarks_incDec (operand : Expr) (increment : Bool) :
    (incDec operand increment).remarks = operand.remarks := by
  change Piece.remarks
    (operand.pieces ++ [Piece.mark (if increment then .plusPlus else .minusMinus)]) = _
  simp

@[simp] theorem remarks_assign (targets : List Expr) (op : AssignOp) (values : List Expr) :
    (assign targets op values).remarks = Expr.remarksAll targets ++ Expr.remarksAll values := by
  change Piece.remarks (Expr.listPieces targets ++ .blank :: .mark op.kind :: .blank ::
    Expr.listPieces values) = _
  simp

@[simp] theorem remarks_go (call : Expr) : (go call).remarks = call.remarks := rfl

@[simp] theorem remarks_defer (call : Expr) : (defer call).remarks = call.remarks := rfl

@[simp] theorem remarks_ret (results : List Expr) :
    (ret results).remarks = Expr.remarksAll results := by
  change Piece.remarks (.mark .returnKw :: (if results.isEmpty then [] else [Piece.blank]) ++
    Expr.listPieces results) = _
  simp

@[simp] theorem remarks_branch (keyword : BranchKeyword) (label : Option Ident) :
    (branch keyword label).remarks = [] := by
  cases label <;> rfl

@[simp] theorem remarks_block (block : Block) : (StmtKind.block block).remarks = block.remarks :=
  rfl

/-- The pieces of a statement before the condition or subject of a header. -/
def initPieces : Option Stmt → List Piece
  | some init => init.pieces ++ [.mark .semicolon, .blank]
  | none => []

@[simp] theorem remarks_initPieces (init : Option Stmt) :
    Piece.remarks (initPieces init) = init.elim [] Stmt.remarks := by
  cases init <;> simp [initPieces]

@[simp] theorem remarks_conditional (init : Option Stmt) (condition : Expr) (body : Block)
    (alternative : Option Stmt) :
    (conditional init condition body alternative).remarks =
      init.elim [] Stmt.remarks ++ condition.remarks ++ body.remarks ++
        alternative.elim [] (·.kind.remarks) := by
  have same : (conditional init condition body alternative).pieces =
      .mark .ifKw :: .blank :: initPieces init ++ condition.pieces ++ .blank :: body.pieces ++
        alternative.elim [] (.blank :: .mark .elseKw :: .blank :: ·.kind.pieces) := by
    cases init <;> rcases alternative with _ | ⟨_, _, _⟩ <;> rfl
  cases alternative <;> simp [remarks, same]

@[simp] theorem remarks_switch (init : Option Stmt) (tag : Option Expr)
    (clauses : List CaseClause) :
    (switch init tag clauses).remarks =
      init.elim [] Stmt.remarks ++ tag.elim [] Expr.remarks ++ CaseClause.remarksAll clauses := by
  have same : (switch init tag clauses).pieces =
      .mark .switchKw :: .blank :: initPieces init ++ tag.elim [] (·.pieces ++ [Piece.blank]) ++
        .mark .leftBrace :: CaseClause.linePieces clauses ++ [Piece.line, .mark .rightBrace] := by
    cases init <;> cases tag <;> rfl
  cases tag <;> simp [remarks, same]

@[simp] theorem remarks_typeSwitch (init : Option Stmt) (binding : Option Ident) (subject : Expr)
    (clauses : List CaseClause) :
    (typeSwitch init binding subject clauses).remarks =
      init.elim [] Stmt.remarks ++ subject.remarks ++ CaseClause.remarksAll clauses := by
  have same : (typeSwitch init binding subject clauses).pieces =
      .mark .switchKw :: .blank :: initPieces init ++
        binding.elim [] ([Piece.name ·, .blank, .mark .colonEq, .blank]) ++ subject.pieces ++
        [Piece.mark .dot, .mark .leftParen, .mark .typeKw, .mark .rightParen, .blank,
          .mark .leftBrace] ++
        CaseClause.linePieces clauses ++ [Piece.line, .mark .rightBrace] := by
    cases init <;> cases binding <;> rfl
  cases binding <;> simp [remarks, same]

@[simp] theorem remarks_select (clauses : List CommClause) :
    (select clauses).remarks = CommClause.remarksAll clauses := by
  change Piece.remarks (.mark .selectKw :: .blank :: .mark .leftBrace ::
    CommClause.linePieces clauses ++ [Piece.line, .mark .rightBrace]) = _
  simp

@[simp] theorem remarks_loop (init : Option Stmt) (condition : Option Expr) (post : Option Stmt)
    (body : Block) :
    (loop init condition post body).remarks =
      init.elim [] Stmt.remarks ++ condition.elim [] Expr.remarks ++ post.elim [] Stmt.remarks ++
        body.remarks := by
  have clauses : Piece.remarks
      (.mark .forKw :: .blank :: init.elim [] (·.pieces) ++ .mark .semicolon :: .blank ::
        Expr.piecesOf condition ++ .mark .semicolon :: post.elim [] (.blank :: ·.pieces) ++
        .blank :: body.pieces) =
      init.elim [] Stmt.remarks ++ condition.elim [] Expr.remarks ++ post.elim [] Stmt.remarks ++
        body.remarks := by
    cases init <;> cases post <;> simp
  cases init <;> cases condition <;> cases post
  case none.none.none => rfl
  case none.some.none condition =>
    change Piece.remarks (.mark .forKw :: .blank :: condition.pieces ++ .blank :: body.pieces) = _
    simp
  all_goals exact clauses

@[simp] theorem remarks_range (key value : Option Expr) (define : Bool) (subject : Expr)
    (body : Block) :
    (range key value define subject body).remarks =
      key.elim [] (·.remarks ++ value.elim [] Expr.remarks) ++ subject.remarks ++
        body.remarks := by
  have same : (range key value define subject body).pieces =
      .mark .forKw :: .blank ::
        key.elim [] (·.pieces ++ value.elim [] (Piece.comma ++ ·.pieces) ++
          [Piece.blank, .mark (if define then .colonEq else .eq), .blank]) ++
        .mark .rangeKw :: .blank :: subject.pieces ++ .blank :: body.pieces := by
    cases key <;> cases value <;> rfl
  cases key <;> cases value <;> simp [remarks, same, Piece.comma]

end StmtKind

/-! ## Files -/

@[simp] theorem Decl.remarks_gen (decl : GenDecl) :
    (Decl.gen decl).remarks = decl.doc ++ Spec.remarksAll decl.specs :=
  decl.remarks_pieces

@[simp] theorem Decl.remarks_func (decl : FuncDecl) :
    (Decl.func decl).remarks =
      decl.doc ++ decl.receiver.elim [] (Field.typeRemarks ·.fields) ++ decl.signature.remarks ++
        decl.body.elim [] Block.remarks := by
  obtain ⟨doc, receiver, name, signature, body⟩ := decl
  cases receiver <;> cases body <;> simp [Decl.remarks, pieces, FuncDecl.pieces]

/-- The comments of several top-level declarations. -/
def Decl.remarksAll (decls : List Decl) : List Comment :=
  decls.flatMap Decl.remarks

/-- The comments that a file is written with, in the order in which they are written. -/
abbrev File.remarks (file : File) : List Comment :=
  Piece.remarks file.pieces

theorem File.remarks_eq (file : File) :
    file.remarks = file.doc ++ Decl.remarksAll file.decls ++ file.trailing := by
  have decls : ∀ decls : List Decl,
      Piece.remarks (decls.flatMap fun decl => .line :: (decl.pieces ++ [Piece.line])) =
        Decl.remarksAll decls := by
    intro decls
    induction decls with
    | nil => rfl
    | cons decl rest ih =>
        rw [List.flatMap_cons, Piece.remarks_append, ih]
        simp [Decl.remarksAll]
  have trailing : ∀ comments : List Comment,
      Piece.remarks (comments.flatMap fun comment => [.comment comment, .line]) = comments :=
    Piece.remarks_doc
  rw [File.remarks, pieces]
  cases behind : file.trailing <;> simp [decls, trailing]

end GoMend
