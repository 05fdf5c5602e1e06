/-!
# Positions in a text

A text is addressed in two ways: by byte offsets, which tokens and tree nodes
carry, and by lines and columns, which diagnostics show.  Lines and columns count
from one, and a column counts bytes.  A line index holds where each line begins
and turns either address into the other.
-/

namespace GoMend

/-- A line and a byte column, both counted from one. -/
structure Position where
  line : Nat
  column : Nat
  deriving DecidableEq, Repr

namespace Position

/-- The written form `line:column`. -/
def render (position : Position) : String :=
  s!"{position.line}:{position.column}"

end Position

/-- Where the lines of a text begin, and how many bytes the text has.  The first
line begins at zero and is left out. -/
structure LineIndex where
  later : List Nat
  size : Nat
  deriving DecidableEq, Repr

namespace LineIndex

/-- The offsets that follow the line breaks of a text whose first character has
the given offset. -/
def startsAfterBreaks : List Char → Nat → List Nat
  | [], _ => []
  | c :: rest, offset =>
      let next := offset + c.utf8Size
      if c = '\n' then next :: startsAfterBreaks rest next
      else startsAfterBreaks rest next

/-- The index of a text. -/
def ofText (text : String) : LineIndex where
  later := startsAfterBreaks text.toList 0
  size := text.utf8ByteSize

/-- The offsets at which lines begin, in ascending order. -/
def starts (index : LineIndex) : List Nat :=
  0 :: index.later

/-- The number of lines; a text that ends in a line break has an empty last line. -/
def lineCount (index : LineIndex) : Nat :=
  index.later.length + 1

/-- The position of an offset: its line is the last one that begins at or before
it. -/
def position (index : LineIndex) (offset : Nat) : Position :=
  let before := index.later.takeWhile (· ≤ offset)
  { line := before.length + 1
    column := offset - before.getLast?.getD 0 + 1 }

/-- The offset at a position, if the line exists and the column does not run past
its end. -/
def offset? (index : LineIndex) (position : Position) : Option Nat :=
  if position.line = 0 ∨ position.column = 0 then none
  else do
    let start ← index.starts[position.line - 1]?
    let stop := index.starts[position.line]?.getD (index.size + 1)
    let offset := start + (position.column - 1)
    if offset < stop then some offset else none

end LineIndex

end GoMend
