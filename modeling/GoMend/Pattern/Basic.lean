/-!
# Regular expressions

Regular expressions over characters, with assertions for the two ends of a text.
Both the tokens of a source text and the name patterns of a configuration are
expressions of this type.  The longest match at the head of a text goes by
derivatives: the derivative of an expression by a character matches what may follow
that character.
-/

namespace GoMend

/-- A regular expression. -/
inductive Pattern where
  /-- Matches nothing at all. -/
  | never
  /-- Matches the empty text. -/
  | empty
  /-- Matches the empty text at the start of the whole text. -/
  | textStart
  /-- Matches the empty text at the end of the whole text. -/
  | textEnd
  /-- Matches one character that passes the test. -/
  | one (test : Char → Bool)
  | seq (first second : Pattern)
  | either (left right : Pattern)
  /-- Matches any number of repetitions. -/
  | many (body : Pattern)

namespace Pattern

/-- Sequence, where a part that matches only the empty text or nothing is folded
away. -/
def followedBy : Pattern → Pattern → Pattern
  | .never, _ => .never
  | .empty, second => second
  | first, second => .seq first second

/-- Alternative, where a part that matches nothing is folded away. -/
def orElse : Pattern → Pattern → Pattern
  | .never, right => right
  | left, .never => left
  | left, right => .either left right

/-- The alternative of several expressions. -/
def any (patterns : List Pattern) : Pattern :=
  patterns.foldr .orElse .never

/-- The sequence of several expressions. -/
def all (patterns : List Pattern) : Pattern :=
  patterns.foldr .followedBy .empty

/-- One given character. -/
def char (c : Char) : Pattern :=
  .one (· == c)

/-- One character out of a text. -/
def oneOf (text : String) : Pattern :=
  .one fun c => text.toList.contains c

/-- A fixed text. -/
def fixed (text : String) : Pattern :=
  all (text.toList.map char)

/-- At least one repetition. -/
def atLeastOnce (body : Pattern) : Pattern :=
  .followedBy body (.many body)

/-- At most one occurrence. -/
def optional (body : Pattern) : Pattern :=
  .orElse body .empty

/-- Whether the expression matches the empty text in the middle of a larger one. -/
def nullable : Pattern → Bool
  | .never => false
  | .empty => true
  | .textStart => false
  | .textEnd => false
  | .one _ => false
  | .seq first second => first.nullable && second.nullable
  | .either left right => left.nullable || right.nullable
  | .many _ => true

/-- What may follow the character once it has been read in the middle of a text. -/
def derivative (c : Char) : Pattern → Pattern
  | .never => .never
  | .empty => .never
  | .textStart => .never
  | .textEnd => .never
  | .one test => if test c then .empty else .never
  | .seq first second =>
      let through := (first.derivative c).followedBy second
      if first.nullable then through.orElse (second.derivative c) else through
  | .either left right => (left.derivative c).orElse (right.derivative c)
  | .many body => (body.derivative c).followedBy (.many body)

/-- Whether the expression is, on its face, the one that matches nothing. -/
def isNever : Pattern → Bool
  | .never => true
  | _ => false

/-- The length of the longest initial part of the text, read in the middle of a
larger one, that the expression matches. -/
def longest? (pattern : Pattern) : List Char → Option Nat
  | [] => if pattern.nullable then some 0 else none
  | c :: rest =>
      let next := pattern.derivative c
      let longer := if next.isNever then none else next.longest? rest
      match longer with
      | some length => some (length + 1)
      | none => if pattern.nullable then some 0 else none

end Pattern

end GoMend
