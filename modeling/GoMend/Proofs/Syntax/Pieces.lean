import GoMend.Syntax.Layout

/-!
# The layout of each node

How the pieces of a node are put together from those of its parts, one equation for each
kind of node.  Whatever is proved about a layout opens it by these.
-/

namespace GoMend

namespace Expr

/-- The pieces of an expression that may be left out. -/
def piecesOf (expr : Option Expr) : List Piece :=
  expr.elim [] pieces

@[simp] theorem piecesOf_none : piecesOf none = [] := rfl

@[simp] theorem piecesOf_some (expr : Expr) : piecesOf (some expr) = expr.pieces := rfl

theorem pieces_ident (name : Ident) : (ident name).pieces = [.name name] := rfl

theorem pieces_literal (value : Literal) : (literal value).pieces = [.literal value] := rfl

/-- What stands between the braces of a composite literal. -/
def innerPieces (elements : List Expr) (multiline : Bool) : List Piece :=
  if multiline && !elements.isEmpty then .indent :: linePieces elements ++ [.dedent, .line]
  else listPieces elements

theorem pieces_composite (type : Option Expr) (elements : List Expr) (multiline : Bool) :
    (composite type elements multiline).pieces =
      piecesOf type ++ .mark .leftBrace :: innerPieces elements multiline ++
        [Piece.mark .rightBrace] := by
  cases type <;> rfl

theorem pieces_function (signature : Signature) (body : Block) :
    (function signature body).pieces =
      .mark .funcKw :: signature.pieces ++ .blank :: body.pieces :=
  rfl

theorem pieces_paren (inner : Expr) :
    (paren inner).pieces = .mark .leftParen :: inner.pieces ++ [Piece.mark .rightParen] :=
  rfl

theorem pieces_selector (base : Expr) (name : Ident) :
    (selector base name).pieces = base.pieces ++ [Piece.mark .dot, .name name] :=
  rfl

theorem pieces_index (base position : Expr) :
    (index base position).pieces =
      base.pieces ++ .mark .leftBracket :: position.pieces ++ [Piece.mark .rightBracket] :=
  rfl

/-- The upper bound of a slice that has one, with the colon before it. -/
def maxPieces : Option Expr → List Piece
  | some max => .mark .colon :: max.pieces
  | none => []

theorem pieces_slice (base : Expr) (low high max : Option Expr) :
    (slice base low high max).pieces =
      base.pieces ++ .mark .leftBracket :: piecesOf low ++ .mark .colon :: piecesOf high ++
        maxPieces max ++ [Piece.mark .rightBracket] := by
  cases low <;> cases high <;> cases max <;> rfl

/-- The type in an assertion, or the keyword in its place. -/
def assertedPieces : Option Expr → List Piece
  | some type => type.pieces
  | none => [.mark .typeKw]

theorem pieces_assertion (base : Expr) (type : Option Expr) :
    (assertion base type).pieces =
      base.pieces ++ .mark .dot :: .mark .leftParen :: assertedPieces type ++
        [Piece.mark .rightParen] := by
  cases type <;> rfl

theorem pieces_call (callee : Expr) (arguments : List Expr) (spread : Bool) :
    (call callee arguments spread).pieces =
      callee.pieces ++ .mark .leftParen :: listPieces arguments ++
        (if spread then [Piece.mark .ellipsis] else []) ++ [Piece.mark .rightParen] :=
  rfl

theorem pieces_star (inner : Expr) : (star inner).pieces = .mark .star :: inner.pieces := rfl

theorem pieces_unary (op : UnaryOp) (operand : Expr) :
    (unary op operand).pieces =
      .mark op.kind :: (if op.fuses && operand.isUnary op then [Piece.blank] else []) ++
        operand.pieces :=
  rfl

theorem pieces_binary (left : Expr) (op : BinaryOp) (right : Expr) :
    (binary left op right).pieces =
      left.pieces ++ .blank :: .mark op.kind :: .blank :: right.pieces :=
  rfl

theorem pieces_keyValue (key value : Expr) :
    (keyValue key value).pieces = key.pieces ++ .mark .colon :: .blank :: value.pieces :=
  rfl

theorem pieces_arrayType (length : ArrayLength) (element : Expr) :
    (arrayType length element).pieces = length.pieces ++ element.pieces :=
  rfl

theorem pieces_mapType (key value : Expr) :
    (mapType key value).pieces =
      .mark .mapKw :: .mark .leftBracket :: key.pieces ++ .mark .rightBracket :: value.pieces :=
  rfl

theorem pieces_chanType (direction : ChanDirection) (element : Expr) :
    (chanType direction element).pieces = direction.pieces ++ element.pieces :=
  rfl

theorem pieces_structType (fields : FieldList) :
    (structType fields).pieces = .mark .structKw :: fields.memberPieces false :=
  rfl

theorem pieces_interfaceType (methods : FieldList) :
    (interfaceType methods).pieces = .mark .interfaceKw :: methods.memberPieces true :=
  rfl

variable {rest : List Expr}

@[simp] theorem listPieces_nil : listPieces [] = [] := rfl

@[simp] theorem tailPieces_nil : tailPieces [] = [] := rfl

@[simp] theorem linePieces_nil : linePieces [] = [] := rfl

theorem listPieces_cons (expr : Expr) :
    listPieces (expr :: rest) = expr.pieces ++ tailPieces rest :=
  rfl

theorem tailPieces_cons (expr : Expr) :
    tailPieces (expr :: rest) = .mark .comma :: .blank :: (expr.pieces ++ tailPieces rest) :=
  rfl

theorem linePieces_cons (expr : Expr) :
    linePieces (expr :: rest) = .line :: expr.pieces ++ .mark .comma :: linePieces rest :=
  rfl

end Expr

namespace ArrayLength

theorem pieces_slice : slice.pieces = [.mark .leftBracket, .mark .rightBracket] := rfl

theorem pieces_inferred :
    inferred.pieces = [.mark .leftBracket, .mark .ellipsis, .mark .rightBracket] :=
  rfl

theorem pieces_fixed (size : Expr) :
    (fixed size).pieces = .mark .leftBracket :: size.pieces ++ [Piece.mark .rightBracket] :=
  rfl

end ArrayLength

namespace Field

/-- The names before a type. -/
def headPieces (names : List Ident) : List Piece :=
  if names.isEmpty then [] else Piece.names names ++ [.blank]

/-- The string behind a struct field. -/
def tagPieces : Option Literal → List Piece
  | some tag => [.blank, .literal tag]
  | none => []

theorem paramPieces_mk (doc : List Comment) (names : List Ident) (type : Expr)
    (tag : Option Literal) (comment : Option Comment) :
    (Field.mk doc names type tag comment).paramPieces = headPieces names ++ type.pieces :=
  rfl

theorem paramTailPieces_cons (field : Field) (rest : List Field) :
    paramTailPieces (field :: rest) =
      Piece.comma ++ field.paramPieces ++ paramTailPieces rest :=
  rfl

theorem memberLines_cons (methods : Bool) (field : Field) (rest : List Field) :
    memberLines methods (field :: rest) = field.memberPieces methods ++ memberLines methods rest :=
  rfl

/-- A method of an interface, or a struct field of a function type. -/
theorem memberPieces_funcType (methods : Bool) (doc : List Comment) (name : Ident)
    (others : List Ident) (signature : Signature) (tag : Option Literal)
    (comment : Option Comment) :
    (Field.mk doc (name :: others) (.funcType signature) tag comment).memberPieces methods =
      .line :: Piece.doc doc ++
      (if methods then .name name :: signature.pieces
      else Piece.names (name :: others) ++ .blank :: .mark .funcKw :: signature.pieces) ++
      tagPieces tag ++ Piece.trailing comment := by
  cases tag <;> rfl

/-- Any other member. -/
theorem memberPieces_other (methods : Bool) (doc : List Comment) (names : List Ident)
    (type : Expr) (tag : Option Literal) (comment : Option Comment)
    (other : names = [] ∨ ∀ signature, type ≠ .funcType signature) :
    (Field.mk doc names type tag comment).memberPieces methods =
      .line :: Piece.doc doc ++ headPieces names ++ type.pieces ++ tagPieces tag ++
        Piece.trailing comment := by
  cases names with
  | nil => cases tag <;> rfl
  | cons name others =>
      cases type with
      | funcType signature => simp at other
      | _ => cases tag <;> rfl

end Field

namespace FieldList

theorem paramPieces_cons (field : Field) (rest : List Field) (closing : List Comment) :
    (FieldList.mk (field :: rest) closing).paramPieces =
      field.paramPieces ++ Field.paramTailPieces rest :=
  rfl

theorem memberPieces_mk (methods : Bool) (fields : List Field) (closing : List Comment) :
    (FieldList.mk fields closing).memberPieces methods =
      if fields.isEmpty && closing.isEmpty then [Piece.mark .leftBrace, .mark .rightBrace]
      else
        .blank :: .mark .leftBrace :: .indent :: Field.memberLines methods fields ++
        Piece.closing closing ++ [Piece.dedent, .line, .mark .rightBrace] :=
  rfl

end FieldList

/-- The pieces of the results of a function that has some. -/
def FieldList.resultPiecesOf (results : Option FieldList) : List Piece :=
  results.elim [] FieldList.resultPieces

theorem Signature.pieces_mk (params : FieldList) (results : Option FieldList) :
    (Signature.mk params results).pieces =
      .mark .leftParen :: params.paramPieces ++ .mark .rightParen ::
        FieldList.resultPiecesOf results := by
  cases results <;> rfl

/-! ## Declarations -/

theorem ValueSpec.pieces_mk (doc : List Comment) (names : List Ident) (type : Option Expr)
    (values : List Expr) (comment : Option Comment) :
    (ValueSpec.mk doc names type values comment).pieces =
      Piece.doc doc ++ Piece.names names ++ type.elim [] (.blank :: ·.pieces) ++
        (if values.isEmpty then [] else [Piece.blank, .mark .eq, .blank]) ++
        Expr.listPieces values ++ Piece.trailing comment := by
  cases type <;> rfl

theorem TypeSpec.pieces_mk (doc : List Comment) (name : Ident) (isAlias : Bool) (type : Expr)
    (comment : Option Comment) :
    (TypeSpec.mk doc name isAlias type comment).pieces =
      Piece.doc doc ++ .name name ::
        (if isAlias then [Piece.blank, .mark .eq, .blank] else [Piece.blank]) ++
        type.pieces ++ Piece.trailing comment :=
  rfl

theorem Spec.linePieces_cons (spec : Spec) (rest : List Spec) :
    Spec.linePieces (spec :: rest) = .line :: spec.pieces ++ Spec.linePieces rest :=
  rfl

/-! ## Statements -/

theorem Stmt.pieces_mk (doc : List Comment) (kind : StmtKind) (comment : Option Comment) :
    (Stmt.mk doc kind comment).pieces =
      Piece.doc doc ++ kind.pieces ++ Piece.trailing comment :=
  rfl

theorem Stmt.linePieces_cons (stmt : Stmt) (rest : List Stmt) :
    Stmt.linePieces (stmt :: rest) = .line :: stmt.pieces ++ Stmt.linePieces rest :=
  rfl

theorem Block.pieces_mk (stmts : List Stmt) (closing : List Comment) :
    (Block.mk stmts closing).pieces =
      if stmts.isEmpty && closing.isEmpty then [Piece.mark .leftBrace, .mark .rightBrace]
      else
        .mark .leftBrace :: .indent :: Stmt.linePieces stmts ++
        Piece.closing closing ++ [Piece.dedent, .line, .mark .rightBrace] :=
  rfl

end GoMend
