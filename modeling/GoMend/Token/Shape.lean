import GoMend.Pattern.Basic
import GoMend.Text.Letter
import GoMend.Token.Kind

/-!
# The shapes of tokens

Each category of token is declared by a regular expression.  A source text is cut
at the longest piece that one of the shapes matches; of two shapes that match
pieces of one length, the earlier in the list decides, so the keywords stand
before the identifiers.
-/

namespace GoMend.Token

open Pattern

/-- A letter or an underscore. -/
def isNameStart (c : Char) : Bool :=
  Text.isLetter c || c == '_'

/-- A letter, a decimal digit or an underscore. -/
def isNamePart (c : Char) : Bool :=
  Text.isLetter c || Text.isDecimalDigit c || c == '_'

/-- An ASCII digit. -/
def isDigit (c : Char) : Bool :=
  '0' ≤ c && c ≤ '9'

/-- An ASCII digit or the underscore that may stand between digits. -/
def isDigitPart (c : Char) : Bool :=
  isDigit c || c == '_'

/-- Letters, digits and underscores that do not begin with a digit. -/
def nameShape : Pattern :=
  (one isNameStart).followedBy (many (one isNamePart))

/-- A digit followed by digits and underscores. -/
def digitsShape : Pattern :=
  (one isDigit).followedBy (many (one isDigitPart))

/-- A number with a base sign: a zero, one of two letters, and digits of the base. -/
def basedShape (signs : String) (digit : Char → Bool) : Pattern :=
  all [char '0', oneOf signs, (one fun c => digit c || c == '_').atLeastOnce]

/-- The power of ten in a number. -/
def exponentShape : Pattern :=
  all [oneOf "eE", (oneOf "+-").optional, (one isDigitPart).atLeastOnce]

/-- Digits, a point, perhaps more digits and perhaps an exponent. -/
def pointedShape : Pattern :=
  all [digitsShape, char '.', many (one isDigitPart), exponentShape.optional]

/-- A point, digits and perhaps an exponent. -/
def fractionShape : Pattern :=
  all [char '.', digitsShape, exponentShape.optional]

/-- An integer in base ten, sixteen, eight or two. -/
def intShape : Pattern :=
  any [digitsShape,
    basedShape "xX" fun c => isDigit c || ('a' ≤ c && c ≤ 'f') || ('A' ≤ c && c ≤ 'F'),
    basedShape "oO" fun c => '0' ≤ c && c ≤ '7',
    basedShape "bB" fun c => c == '0' || c == '1']

/-- A number with a point or an exponent. -/
def floatShape : Pattern :=
  any [pointedShape, fractionShape, digitsShape.followedBy exponentShape]

/-- A number followed by the imaginary unit. -/
def imaginaryShape : Pattern :=
  (any [digitsShape, pointedShape, fractionShape]).followedBy (char 'i')

/-- One item between quotes: a plain character, or a backslash with the character
after it. -/
def quotedItem (quote : Char) : Pattern :=
  (one fun c => c != quote && c != '\\' && c != '\n').orElse
    ((char '\\').followedBy (one (· != '\n')))

/-- A character literal. -/
def charShape : Pattern :=
  all [char '\'', (quotedItem '\'').atLeastOnce, char '\'']

/-- A string literal, with escapes or raw. -/
def stringShape : Pattern :=
  (all [char '"', many (quotedItem '"'), char '"']).orElse
    (all [char '`', many (one (· != '`')), char '`'])

/-- A comment up to the end of its line. -/
def lineCommentShape : Pattern :=
  (fixed "//").followedBy (many (one (· != '\n')))

/-- A comment up to the first closing mark. -/
def blockCommentShape : Pattern :=
  let stars := (char '*').atLeastOnce
  let item := (one (· != '*')).orElse
    (stars.followedBy (one fun c => c != '*' && c != '/'))
  all [fixed "/*", many item, stars, char '/']

/-- The shape of a category with a fixed text. -/
def fixedShape (kind : Kind) : Kind × Pattern :=
  (kind, fixed kind.spelling)

/-- The shapes of all categories, the decisive ones first. -/
def shapes : List (Kind × Pattern) :=
  [(.newline, char '\n'), (.lineComment, lineCommentShape),
    (.blockComment, blockCommentShape)] ++
  Kind.keywords.map fixedShape ++
  [(.identifier, nameShape), (.int, intShape), (.float, floatShape),
    (.imaginary, imaginaryShape), (.char, charShape), (.string, stringShape)] ++
  Kind.operators.map fixedShape ++
  Kind.punctuation.map fixedShape

/-- Whether a piece of the shape can begin with the character. -/
def canBegin (c : Char) (shape : Pattern) : Bool :=
  !(shape.derivative c).isNever

/-- The shapes of the pieces that can begin with a character. -/
def shapesFrom (c : Char) : List (Kind × Pattern) :=
  shapes.filter fun shape => canBegin c shape.2

/-- The shapes for each of the ASCII characters, in the order of these. -/
def asciiShapes : Array (List (Kind × Pattern)) :=
  Array.ofFn fun code : Fin 128 => shapesFrom (Char.ofNat code)

/-- The shapes of the pieces that can begin with a character, looked up if the character
is an ASCII one. -/
def shapesAt (c : Char) : List (Kind × Pattern) :=
  (asciiShapes[c.toNat]?).getD (shapesFrom c)

/-- Looking shapes up finds the same shapes. -/
theorem shapesAt_eq (c : Char) : shapesAt c = shapesFrom c := by
  unfold shapesAt asciiShapes
  rw [Array.getElem?_ofFn]
  split
  · simp [Char.ofNat_toNat]
  · rfl

end GoMend.Token
