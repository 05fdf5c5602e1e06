import GoMend.Text.Position
import GoMend.Token.Lexed

/-!
# Positions of names

For one reading of a text: where its lines begin, and where its names begin.  A
reported position is checked against the names before a tree is searched.
-/

namespace GoMend

/-- The lines of a text and the offsets of its names, in order. -/
structure PositionIndex where
  lines : LineIndex
  idents : List Nat

namespace PositionIndex

/-- The index of a text, whether or not it can be read as a file. -/
def ofText (text : String) : PositionIndex where
  lines := LineIndex.ofText text
  idents := ((Lexed.ofText text).tokens.filter (·.kind == .identifier)).map (·.offset)

/-- The offset of the name that begins exactly at the position. -/
def identOffset? (index : PositionIndex) (position : Position) : Option Nat :=
  (index.lines.offset? position).filter index.idents.contains

end PositionIndex

end GoMend
