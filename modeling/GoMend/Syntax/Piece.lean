import GoMend.Syntax.Tree

/-!
# Pieces of a layout

The layout of a tree is a sequence of pieces: words of the grammar, names,
literals and comments, with blanks, line breaks and changes of the indentation
between them.  Writing the pieces one after another gives the text.
-/

namespace GoMend

/-- A piece of a layout. -/
inductive Piece where
  /-- A token with a fixed spelling. -/
  | mark (kind : Kind)
  | name (ident : Ident)
  | literal (literal : Literal)
  | comment (comment : Comment)
  | blank
  /-- A line break followed by the current indentation. -/
  | line
  | indent
  | dedent
  deriving DecidableEq, Repr

namespace Piece

/-- The text of a piece at an indentation depth. -/
def text (depth : Nat) : Piece → String
  | .mark kind => kind.spelling
  | .name occurrence => occurrence.name
  | .literal value => value.text
  | .comment remark => remark.text
  | .blank => " "
  | .line => String.ofList ('\n' :: List.replicate depth '\t')
  | .indent => ""
  | .dedent => ""

/-- The indentation depth behind a piece. -/
def depthAfter (depth : Nat) : Piece → Nat
  | .indent => depth + 1
  | .dedent => depth - 1
  | _ => depth

/-- The texts of the pieces, from an indentation depth on. -/
def texts : Nat → List Piece → List String
  | _, [] => []
  | depth, piece :: rest => piece.text depth :: texts (piece.depthAfter depth) rest

/-- The text of a layout that begins without indentation. -/
def render (pieces : List Piece) : String :=
  String.join (texts 0 pieces)

/-- The pieces of several parts with a separator between neighbours. -/
def separated (separator : List Piece) : List (List Piece) → List Piece
  | [] => []
  | [part] => part
  | part :: rest => part ++ separator ++ separated separator rest

/-- A comma and a blank. -/
def comma : List Piece :=
  [.mark .comma, .blank]

/-- A list of names. -/
def names (idents : List Ident) : List Piece :=
  separated comma (idents.map fun ident => [.name ident])

/-- Comments on lines of their own, before what they document. -/
def doc (comments : List Comment) : List Piece :=
  comments.flatMap fun remark => [.comment remark, .line]

/-- A comment at the end of a line. -/
def trailing : Option Comment → List Piece
  | some remark => [.blank, .comment remark]
  | none => []

/-- Comments on lines of their own, before a closing bracket. -/
def closing (comments : List Comment) : List Piece :=
  comments.flatMap fun remark => [.line, .comment remark]

end Piece

end GoMend
