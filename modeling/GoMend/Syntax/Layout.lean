import GoMend.Syntax.Piece

/-!
# The layout of a tree

Every node has one layout: tabs for indentation, a declaration per paragraph, a
grouped spec, a field and a statement per line, and composite literals broken
across lines if they are marked so.  No parenthesis is added; a tree that was read
has those it needs.
-/

namespace GoMend

namespace UnaryOp

/-- Whether a blank must keep the operator apart from the same operator behind it,
so that the two do not read as one token. -/
def fuses : UnaryOp → Bool
  | .plus | .minus | .address => true
  | _ => false

end UnaryOp

namespace ChanDirection

/-- The words that open a channel type. -/
def pieces : ChanDirection → List Piece
  | .both => [.mark .chanKw, .blank]
  | .send => [.mark .chanKw, .mark .arrow, .blank]
  | .receive => [.mark .arrow, .mark .chanKw, .blank]

end ChanDirection

namespace ImportSpec

/-- An import entry. -/
def pieces (spec : ImportSpec) : List Piece :=
  Piece.doc spec.doc ++
  (match spec.name with
    | some name => [.name name, .blank]
    | none => []) ++
  .literal spec.path :: Piece.trailing spec.comment

end ImportSpec

namespace Expr

/-- Whether the expression is an application of the given unary operator. -/
def isUnary (op : UnaryOp) : Expr → Bool
  | .unary other _ => other == op
  | _ => false

end Expr

mutual

/-- An expression or a type. -/
def Expr.pieces : Expr → List Piece
  | .ident name => [.name name]
  | .literal value => [.literal value]
  | .composite type elements multiline =>
      (match type with
        | some type => type.pieces
        | none => []) ++
      .mark .leftBrace ::
      (if multiline && !elements.isEmpty then
        .indent :: Expr.linePieces elements ++ [.dedent, .line]
      else Expr.listPieces elements) ++
      [.mark .rightBrace]
  | .function signature body =>
      .mark .funcKw :: signature.pieces ++ .blank :: body.pieces
  | .paren inner => .mark .leftParen :: inner.pieces ++ [.mark .rightParen]
  | .selector base name => base.pieces ++ [.mark .dot, .name name]
  | .index base position =>
      base.pieces ++ .mark .leftBracket :: position.pieces ++ [.mark .rightBracket]
  | .slice base low high max =>
      base.pieces ++ .mark .leftBracket ::
      (match low with
        | some low => low.pieces
        | none => []) ++
      .mark .colon ::
      (match high with
        | some high => high.pieces
        | none => []) ++
      (match max with
        | some max => .mark .colon :: max.pieces
        | none => []) ++
      [.mark .rightBracket]
  | .assertion base type =>
      base.pieces ++ .mark .dot :: .mark .leftParen ::
      (match type with
        | some type => type.pieces
        | none => [.mark .typeKw]) ++
      [.mark .rightParen]
  | .call callee arguments spread =>
      callee.pieces ++ .mark .leftParen :: Expr.listPieces arguments ++
      (if spread then [.mark .ellipsis] else []) ++ [.mark .rightParen]
  | .star inner => .mark .star :: inner.pieces
  | .unary op operand =>
      .mark op.kind ::
      (if op.fuses && operand.isUnary op then [.blank] else []) ++ operand.pieces
  | .binary left op right =>
      left.pieces ++ .blank :: .mark op.kind :: .blank :: right.pieces
  | .keyValue key value => key.pieces ++ .mark .colon :: .blank :: value.pieces
  | .arrayType length element => length.pieces ++ element.pieces
  | .mapType key value =>
      .mark .mapKw :: .mark .leftBracket :: key.pieces ++
      .mark .rightBracket :: value.pieces
  | .chanType direction element => direction.pieces ++ element.pieces
  | .funcType signature => .mark .funcKw :: signature.pieces
  | .structType fields => .mark .structKw :: fields.memberPieces false
  | .interfaceType methods => .mark .interfaceKw :: methods.memberPieces true
  | .variadic element => .mark .ellipsis :: element.pieces
termination_by structural expr => expr

/-- Expressions separated by commas. -/
def Expr.listPieces : List Expr → List Piece
  | [] => []
  | expr :: rest => expr.pieces ++ Expr.tailPieces rest
termination_by structural exprs => exprs

/-- Further expressions, each behind a comma. -/
def Expr.tailPieces : List Expr → List Piece
  | [] => []
  | expr :: rest => Piece.comma ++ expr.pieces ++ Expr.tailPieces rest
termination_by structural exprs => exprs

/-- Expressions on lines of their own, each with a comma behind it. -/
def Expr.linePieces : List Expr → List Piece
  | [] => []
  | expr :: rest => .line :: expr.pieces ++ .mark .comma :: Expr.linePieces rest
termination_by structural exprs => exprs

/-- The brackets before the element type of an array or slice. -/
def ArrayLength.pieces : ArrayLength → List Piece
  | .slice => [.mark .leftBracket, .mark .rightBracket]
  | .inferred => [.mark .leftBracket, .mark .ellipsis, .mark .rightBracket]
  | .fixed size => .mark .leftBracket :: size.pieces ++ [.mark .rightBracket]
termination_by structural length => length

/-- A parameter or result. -/
def Field.paramPieces : Field → List Piece
  | ⟨_, names, type, _, _⟩ =>
      (if names.isEmpty then [] else Piece.names names ++ [.blank]) ++ type.pieces
termination_by structural field => field

/-- Further parameters, each behind a comma. -/
def Field.paramTailPieces : List Field → List Piece
  | [] => []
  | field :: rest => Piece.comma ++ field.paramPieces ++ Field.paramTailPieces rest
termination_by structural fields => fields

/-- Parameters separated by commas, without the parentheses. -/
def FieldList.paramPieces : FieldList → List Piece
  | ⟨[], _⟩ => []
  | ⟨field :: rest, _⟩ => field.paramPieces ++ Field.paramTailPieces rest
termination_by structural list => list

/-- The results of a function: a single unnamed one stands without parentheses. -/
def FieldList.resultPieces : FieldList → List Piece
  | ⟨[⟨_, [], type, _, _⟩], _⟩ => .blank :: type.pieces
  | ⟨[], _⟩ => [.blank, .mark .leftParen, .mark .rightParen]
  | ⟨field :: rest, _⟩ =>
      .blank :: .mark .leftParen :: field.paramPieces ++ Field.paramTailPieces rest ++
      [.mark .rightParen]
termination_by structural list => list

/-- The parameters and results of a function. -/
def Signature.pieces : Signature → List Piece
  | ⟨params, results⟩ =>
      .mark .leftParen :: params.paramPieces ++ .mark .rightParen ::
      (match results with
        | some results => results.resultPieces
        | none => [])
termination_by structural signature => signature

/-- A struct field, or an interface method whose type is written as a signature
behind its name. -/
def Field.memberPieces (methods : Bool) : Field → List Piece
  | ⟨doc, name :: others, .funcType signature, tag, comment⟩ =>
      .line :: Piece.doc doc ++
      (if methods then .name name :: signature.pieces
      else Piece.names (name :: others) ++ .blank :: .mark .funcKw :: signature.pieces) ++
      (match tag with
        | some tag => [.blank, .literal tag]
        | none => []) ++
      Piece.trailing comment
  | ⟨doc, names, type, tag, comment⟩ =>
      .line :: Piece.doc doc ++
      (if names.isEmpty then [] else Piece.names names ++ [.blank]) ++ type.pieces ++
      (match tag with
        | some tag => [.blank, .literal tag]
        | none => []) ++
      Piece.trailing comment
termination_by structural field => field

/-- Struct fields or interface members, one per line. -/
def Field.memberLines (methods : Bool) : List Field → List Piece
  | [] => []
  | field :: rest => field.memberPieces methods ++ Field.memberLines methods rest
termination_by structural fields => fields

/-- The braces of a struct or interface type with what they hold. -/
def FieldList.memberPieces (methods : Bool) : FieldList → List Piece
  | ⟨fields, closing⟩ =>
      if fields.isEmpty && closing.isEmpty then [.mark .leftBrace, .mark .rightBrace]
      else
        .blank :: .mark .leftBrace :: .indent :: Field.memberLines methods fields ++
        Piece.closing closing ++ [.dedent, .line, .mark .rightBrace]
termination_by structural list => list

/-- An entry of a constant or variable declaration. -/
def ValueSpec.pieces : ValueSpec → List Piece
  | ⟨doc, names, type, values, comment⟩ =>
      Piece.doc doc ++ Piece.names names ++
      (match type with
        | some type => .blank :: type.pieces
        | none => []) ++
      (if values.isEmpty then [] else [.blank, .mark .eq, .blank]) ++
      Expr.listPieces values ++ Piece.trailing comment
termination_by structural spec => spec

/-- An entry of a type declaration. -/
def TypeSpec.pieces : TypeSpec → List Piece
  | ⟨doc, name, isAlias, type, comment⟩ =>
      Piece.doc doc ++ .name name ::
      (if isAlias then [.blank, .mark .eq, .blank] else [.blank]) ++
      type.pieces ++ Piece.trailing comment
termination_by structural spec => spec

/-- An entry of a declaration. -/
def Spec.pieces : Spec → List Piece
  | .imported spec => spec.pieces
  | .value spec => spec.pieces
  | .type spec => spec.pieces
termination_by structural spec => spec

/-- Entries on lines of their own. -/
def Spec.linePieces : List Spec → List Piece
  | [] => []
  | spec :: rest => .line :: spec.pieces ++ Spec.linePieces rest
termination_by structural specs => specs

/-- A declaration: a single entry stands behind the keyword unless it was grouped. -/
def GenDecl.pieces : GenDecl → List Piece
  | ⟨doc, keyword, false, [spec], _⟩ =>
      Piece.doc doc ++ .mark keyword.kind :: .blank :: spec.pieces
  | ⟨doc, keyword, _, specs, _⟩ =>
      Piece.doc doc ++ .mark keyword.kind :: .blank :: .mark .leftParen :: .indent ::
      Spec.linePieces specs ++ [.dedent, .line, .mark .rightParen]
termination_by structural decl => decl

/-- Statements in braces, one per line. -/
def Block.pieces : Block → List Piece
  | ⟨stmts, closing⟩ =>
      if stmts.isEmpty && closing.isEmpty then [.mark .leftBrace, .mark .rightBrace]
      else
        .mark .leftBrace :: .indent :: Stmt.linePieces stmts ++
        Piece.closing closing ++ [.dedent, .line, .mark .rightBrace]
termination_by structural block => block

/-- Statements on lines of their own. -/
def Stmt.linePieces : List Stmt → List Piece
  | [] => []
  | stmt :: rest => .line :: stmt.pieces ++ Stmt.linePieces rest
termination_by structural stmts => stmts

/-- A statement with its comments. -/
def Stmt.pieces : Stmt → List Piece
  | ⟨doc, kind, comment⟩ => Piece.doc doc ++ kind.pieces ++ Piece.trailing comment
termination_by structural stmt => stmt

/-- A statement without comments. -/
def StmtKind.pieces : StmtKind → List Piece
  | .decl decl => decl.pieces
  | .empty => []
  | .labeled label stmt =>
      .name label :: .mark .colon ::
      (if stmt.kind.isEmpty then [] else .line :: stmt.pieces)
  | .expr expr => expr.pieces
  | .send channel value =>
      channel.pieces ++ .blank :: .mark .arrow :: .blank :: value.pieces
  | .incDec operand increment =>
      operand.pieces ++ [.mark (if increment then .plusPlus else .minusMinus)]
  | .assign targets op values =>
      Expr.listPieces targets ++ .blank :: .mark op.kind :: .blank ::
      Expr.listPieces values
  | .go call => .mark .goKw :: .blank :: call.pieces
  | .defer call => .mark .deferKw :: .blank :: call.pieces
  | .ret results =>
      .mark .returnKw :: (if results.isEmpty then [] else [.blank]) ++
      Expr.listPieces results
  | .branch keyword label =>
      .mark keyword.kind ::
      (match label with
        | some label => [.blank, .name label]
        | none => [])
  | .block block => block.pieces
  | .conditional init condition body alternative =>
      .mark .ifKw :: .blank ::
      (match init with
        | some init => init.pieces ++ [.mark .semicolon, .blank]
        | none => []) ++
      condition.pieces ++ .blank :: body.pieces ++
      (match alternative with
        | some ⟨_, kind, _⟩ => .blank :: .mark .elseKw :: .blank :: kind.pieces
        | none => [])
  | .switch init tag clauses =>
      .mark .switchKw :: .blank ::
      (match init with
        | some init => init.pieces ++ [.mark .semicolon, .blank]
        | none => []) ++
      (match tag with
        | some tag => tag.pieces ++ [.blank]
        | none => []) ++
      .mark .leftBrace :: CaseClause.linePieces clauses ++ [.line, .mark .rightBrace]
  | .typeSwitch init binding subject clauses =>
      .mark .switchKw :: .blank ::
      (match init with
        | some init => init.pieces ++ [.mark .semicolon, .blank]
        | none => []) ++
      (match binding with
        | some binding => [.name binding, .blank, .mark .colonEq, .blank]
        | none => []) ++
      subject.pieces ++
      [.mark .dot, .mark .leftParen, .mark .typeKw, .mark .rightParen, .blank,
        .mark .leftBrace] ++
      CaseClause.linePieces clauses ++ [.line, .mark .rightBrace]
  | .select clauses =>
      .mark .selectKw :: .blank :: .mark .leftBrace :: CommClause.linePieces clauses ++
      [.line, .mark .rightBrace]
  | .loop none none none body => .mark .forKw :: .blank :: body.pieces
  | .loop none (some condition) none body =>
      .mark .forKw :: .blank :: condition.pieces ++ .blank :: body.pieces
  | .loop init condition post body =>
      .mark .forKw :: .blank ::
      (match init with
        | some init => init.pieces
        | none => []) ++
      .mark .semicolon :: .blank ::
      (match condition with
        | some condition => condition.pieces
        | none => []) ++
      .mark .semicolon ::
      (match post with
        | some post => .blank :: post.pieces
        | none => []) ++
      .blank :: body.pieces
  | .range key value define subject body =>
      .mark .forKw :: .blank ::
      (match key with
        | some key =>
            key.pieces ++
            (match value with
              | some value => Piece.comma ++ value.pieces
              | none => []) ++
            [.blank, .mark (if define then .colonEq else .eq), .blank]
        | none => []) ++
      .mark .rangeKw :: .blank :: subject.pieces ++ .blank :: body.pieces
termination_by structural kind => kind

/-- The clauses of a switch. -/
def CaseClause.linePieces : List CaseClause → List Piece
  | [] => []
  | ⟨doc, list, body⟩ :: rest =>
      .line :: Piece.doc doc ++
      (match list with
        | some list => .mark .caseKw :: .blank :: Expr.listPieces list
        | none => [.mark .defaultKw]) ++
      .mark .colon :: .indent :: Stmt.linePieces body ++
      .dedent :: CaseClause.linePieces rest
termination_by structural clauses => clauses

/-- The clauses of a select statement. -/
def CommClause.linePieces : List CommClause → List Piece
  | [] => []
  | ⟨doc, comm, body⟩ :: rest =>
      .line :: Piece.doc doc ++
      (match comm with
        | some comm => .mark .caseKw :: .blank :: comm.pieces
        | none => [.mark .defaultKw]) ++
      .mark .colon :: .indent :: Stmt.linePieces body ++
      .dedent :: CommClause.linePieces rest
termination_by structural clauses => clauses

end

namespace FuncDecl

/-- A function or method. -/
def pieces (decl : FuncDecl) : List Piece :=
  Piece.doc decl.doc ++ .mark .funcKw :: .blank ::
  (match decl.receiver with
    | some receiver =>
        .mark .leftParen :: receiver.paramPieces ++ [.mark .rightParen, .blank]
    | none => []) ++
  .name decl.name :: decl.signature.pieces ++
  (match decl.body with
    | some body => .blank :: body.pieces
    | none => [])

end FuncDecl

namespace Decl

/-- A top-level declaration. -/
def pieces : Decl → List Piece
  | .gen decl => decl.pieces
  | .func decl => decl.pieces

end Decl

namespace File

/-- A file: a paragraph for the package clause and for each declaration. -/
def pieces (file : File) : List Piece :=
  Piece.doc file.doc ++ .mark .packageKw :: .blank :: .name file.package :: .line ::
  (file.decls.flatMap fun decl => .line :: decl.pieces ++ [.line]) ++
  (if file.trailing.isEmpty then []
  else .line :: file.trailing.flatMap fun comment => [.comment comment, .line])

/-- The text of a file. -/
def render (file : File) : String :=
  Piece.render file.pieces

end File

namespace Expr

/-- The text of an expression that stands alone. -/
def render (expr : Expr) : String :=
  Piece.render expr.pieces

end Expr

namespace Stmt

/-- The text of a statement that stands alone. -/
def render (stmt : Stmt) : String :=
  Piece.render stmt.pieces

end Stmt

end GoMend
