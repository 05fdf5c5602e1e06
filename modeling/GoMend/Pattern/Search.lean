import GoMend.Pattern.Basic

/-!
# Searching

A search asks whether an expression matches some part of a text.  It runs through the
text once and pursues the attempts that begin at all places together: each spot of the
expression where a character is read carries a mark, which tells whether some attempt
has just read a character there.  The expression never grows, so the time is bounded by
the product of its size and the length of the text, however the repetitions are nested.
-/

namespace GoMend

/-- A place in a text, as far as assertions can tell. -/
structure Place where
  atStart : Bool
  atEnd : Bool
  deriving DecidableEq, Repr

/-- An expression in the course of a search. -/
inductive Pursuit where
  | never
  | empty
  | textStart
  | textEnd
  /-- A spot where a character is read, and whether an attempt has just read one. -/
  | one (test : Char → Bool) (marked : Bool)
  | seq (first second : Pursuit)
  | either (left right : Pursuit)
  | many (body : Pursuit)

namespace Pursuit

/-- Whether an attempt can pass through the expression at a place without reading. -/
def passable (place : Place) : Pursuit → Bool
  | .never => false
  | .empty => true
  | .textStart => place.atStart
  | .textEnd => place.atEnd
  | .one _ _ => false
  | .seq first second => first.passable place && second.passable place
  | .either left right => left.passable place || right.passable place
  | .many _ => true

/-- Whether an attempt that has just read a character can be at the end of the
expression. -/
def arrived (place : Place) : Pursuit → Bool
  | .never | .empty | .textStart | .textEnd => false
  | .one _ marked => marked
  | .seq first second => (first.arrived place && second.passable place) || second.arrived place
  | .either left right => left.arrived place || right.arrived place
  | .many body => body.arrived place

/-- Let all attempts read the character at a place; the flag tells whether one stands
in front of the expression. -/
def read (place : Place) (c : Char) : Bool → Pursuit → Pursuit
  | entering, .one test _ => .one test (entering && test c)
  | entering, .seq first second =>
      .seq (first.read place c entering)
        (second.read place c ((entering && first.passable place) || first.arrived place))
  | entering, .either left right =>
      .either (left.read place c entering) (right.read place c entering)
  | entering, .many body => .many (body.read place c (entering || body.arrived place))
  | _, still => still

/-- Whether some attempt, those that begin later included, comes to the end of the
expression on what remains of the text. -/
def succeeds (atStart : Bool) : List Char → Pursuit → Bool
  | [], pursuit =>
      let place : Place := { atStart, atEnd := true }
      pursuit.passable place || pursuit.arrived place
  | c :: rest, pursuit =>
      let place : Place := { atStart, atEnd := false }
      pursuit.passable place || pursuit.arrived place ||
        succeeds false rest (pursuit.read place c true)

end Pursuit

namespace Pattern

/-- The expression before anything has been read. -/
def pursuit : Pattern → Pursuit
  | .never => .never
  | .empty => .empty
  | .textStart => .textStart
  | .textEnd => .textEnd
  | .one test => .one test false
  | .seq first second => .seq first.pursuit second.pursuit
  | .either left right => .either left.pursuit right.pursuit
  | .many body => .many body.pursuit

/-- Whether the expression matches somewhere in the text. -/
def occursIn (pattern : Pattern) (text : String) : Bool :=
  pattern.pursuit.succeeds true text.toList

end Pattern

end GoMend
