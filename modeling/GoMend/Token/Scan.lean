import GoMend.Text.Letter
import GoMend.Token.Kind
import GoMend.Token.Shape

/-!
# Cutting a text into tokens

A token is a piece of a source text with its category and the byte offset at
which it begins.  The offset is a number without a bound; what 32 bits keep of it is
the same number as long as the text has less than 4 GiB.

A text is cut from left to right.  Blanks between tokens are dropped; at any other
place the longest piece that has one of the declared shapes becomes a token.
Where no shape fits, an error token stands for what cannot be read, so every text
is cut to its end.
-/

namespace GoMend

/-- A piece of a source text. -/
structure Token where
  kind : Kind
  text : String
  offset : Nat
  deriving DecidableEq, Repr

/-- The offset just behind the token. -/
def Token.stop (token : Token) : Nat :=
  token.offset + token.text.utf8ByteSize

end GoMend

namespace GoMend.Token

/-- A character that separates tokens and belongs to none. -/
def isSeparator (c : Char) : Bool :=
  c == ' ' || c == '\t' || c == '\r' || c == '\x0c'

/-- The category and length of the longest piece at the head of the text that has
one of the given shapes; among equals the first. -/
def longestShape? (text : List Char) : List (Kind × Pattern) → Option (Kind × Nat)
  | [] => none
  | (kind, shape) :: rest =>
      match shape.longest? text, longestShape? text rest with
      | some length, some (other, otherLength) =>
          if otherLength ≤ length then some (kind, length) else some (other, otherLength)
      | some length, none => some (kind, length)
      | none, found => found

/-- Of shapes that match no empty piece, only those matter that can begin with the first
character of the text. -/
theorem longestShape?_filter (c : Char) (rest : List Char) (shapes : List (Kind × Pattern))
    (filled : ∀ shape ∈ shapes, shape.2.nullable = false) :
    longestShape? (c :: rest) (shapes.filter fun shape => canBegin c shape.2) =
      longestShape? (c :: rest) shapes := by
  induction shapes with
  | nil => rfl
  | cons head tail ih =>
      have tailFilled := ih fun shape member => filled shape (List.mem_cons_of_mem _ member)
      have headFilled := filled head List.mem_cons_self
      obtain ⟨kind, shape⟩ := head
      cases alive : canBegin c shape with
      | true =>
          rw [List.filter_cons, if_pos alive, longestShape?, longestShape?, tailFilled]
      | false =>
          have unmatched : shape.longest? (c :: rest) = none := by
            simp only [canBegin, Bool.not_eq_false'] at alive
            simp only at headFilled
            simp [Pattern.longest?, alive, headFilled]
          rw [List.filter_cons, if_neg (by simp [alive]), longestShape?, unmatched, tailFilled]

/-- How many characters of a quoted text are complete items: plain characters, and
backslashes with the character after them. -/
def itemsLength (quote : Char) : List Char → Nat
  | [] => 0
  | [c] => if c = quote ∨ c = '\\' ∨ c = '\n' then 0 else 1
  | c :: next :: rest =>
      if c = quote ∨ c = '\n' then 0
      else if c = '\\' then
        if next = '\n' then 0 else 2 + itemsLength quote rest
      else 1 + itemsLength quote (next :: rest)

/-- The length of the error token at a place where no shape fits: an open comment
or raw string reaches to the end of the text, an open literal as far as its items
are complete, and anything else is one character. -/
def errorLength : List Char → Nat
  | [] => 0
  | '/' :: '*' :: rest => rest.length + 2
  | '`' :: rest => rest.length + 1
  | '"' :: rest => itemsLength '"' rest + 1
  | '\'' :: rest => itemsLength '\'' rest + 1
  | _ :: _ => 1

/-- An open block comment: no shape but that of a shorter operator fits. -/
def opensComment : List Char → Bool
  | '/' :: '*' :: _ => true
  | _ => false

/-- The category of a piece in front of the given text.  A word is a keyword only if
the very next byte ends it: where that byte might have begun a letter or a digit, the
word is an identifier like any other, even if the character turns out to be neither. -/
def settle (kind : Kind) (behind : List Char) : Kind :=
  if kind.isKeyword && behind.head?.any Text.beginsLikeLetter then .identifier
  else kind

/-- The category and length of the token at the head of a text. -/
def headToken (text : List Char) : Kind × Nat :=
  match longestShape? text (text.head?.elim shapes shapesAt) with
  | some (kind, length) =>
      if opensComment text && kind != .blockComment then (.error, errorLength text)
      else (settle kind (text.drop length), length)
  | none => (.error, errorLength text)

/-- No shape matches an empty piece. -/
theorem nullable_of_mem_shapes : ∀ shape ∈ shapes, shape.2.nullable = false := by
  decide +kernel

/-- At every place of a text all shapes are tried. -/
theorem longestShape?_shapesAt (c : Char) (rest : List Char) :
    longestShape? (c :: rest) (shapesAt c) = longestShape? (c :: rest) shapes := by
  rw [shapesAt_eq, shapesFrom, longestShape?_filter c rest shapes nullable_of_mem_shapes]

/-- The number of bytes of the characters. -/
def byteLength : List Char → Nat
  | [] => 0
  | c :: rest => c.utf8Size + byteLength rest

/-- The tokens of a text whose first character has the given offset.  A head token
has at least one character, which its length minus one behind the first one says. -/
def scanFrom : List Char → Nat → List Token
  | [], _ => []
  | c :: rest, offset =>
      if isSeparator c then scanFrom rest (offset + c.utf8Size)
      else
        let (kind, length) := headToken (c :: rest)
        let piece := c :: rest.take (length - 1)
        { kind, text := String.ofList piece, offset } ::
          scanFrom (rest.drop (length - 1)) (offset + byteLength piece)
termination_by text => text.length
decreasing_by
  · simp
  · simp only [List.length_drop, List.length_cons]
    omega

/-- All tokens of a text, line breaks and comments included. -/
def scan (text : String) : List Token :=
  scanFrom text.toList 0

end GoMend.Token
