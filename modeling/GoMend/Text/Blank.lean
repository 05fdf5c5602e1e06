import GoMend.Text.Ranges

/-!
# White space

The characters with the Unicode property `White_Space`, and trimming by it.
-/

namespace GoMend.Text

/-- The property `White_Space`. -/
def blankRanges : Ranges :=
  [(0x9, 0xD), (0x20, 0x20), (0x85, 0x85), (0xA0, 0xA0), (0x1680, 0x1680), (0x2000, 0x200A),
    (0x2028, 0x2029), (0x202F, 0x202F), (0x205F, 0x205F), (0x3000, 0x3000)]

/-- White space of any script. -/
def isBlank (c : Char) : Bool :=
  blankRanges.contains c.toNat

/-- The text without the leading and trailing characters that satisfy the test. -/
def trimBy (test : Char → Bool) (text : String) : String :=
  String.ofList ((text.toList.dropWhile test).reverse.dropWhile test).reverse

/-- The text without leading and trailing white space. -/
def trim (text : String) : String :=
  trimBy isBlank text

end GoMend.Text
