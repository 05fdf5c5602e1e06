import GoMend.Pattern.Basic
import GoMend.Text.Blank
import GoMend.Text.CaseFold
import GoMend.Text.Word

/-!
# Classes of characters

A class lists characters, ranges and named sets between brackets, and may hold further
classes.  Two lists may be combined by an operator, from left to right.  The classes that
are open form a stack, so a text is read once from its front to its end.
-/

namespace GoMend.Pattern

/-! ## Sets of characters -/

/-- A set of characters; the flag tells whether case is disregarded. -/
abbrev CharSet := Bool → Char → Bool

namespace CharSet

/-- All characters from one to another. -/
def range (low high : Char) : CharSet := fun ignoreCase c =>
  let within (c : Char) : Bool := low ≤ c && c ≤ high
  if ignoreCase then (Text.caseVariants c).any within else within c

/-- A single character. -/
def single (c : Char) : CharSet :=
  range c c

/-- The characters with a property that does not depend on case. -/
def property (test : Char → Bool) : CharSet :=
  fun _ => test

/-- The characters of either set. -/
def union (left right : CharSet) : CharSet :=
  fun ignoreCase c => left ignoreCase c || right ignoreCase c

/-- The characters in any of the ranges. -/
def ranges (ranges : List (Char × Char)) : CharSet := fun ignoreCase c =>
  ranges.any fun (low, high) => range low high ignoreCase c

/-- The characters of both sets. -/
def inter (left right : CharSet) : CharSet :=
  fun ignoreCase c => left ignoreCase c && right ignoreCase c

/-- The characters of exactly one of the sets. -/
def symmetricDifference (left right : CharSet) : CharSet :=
  fun ignoreCase c => left ignoreCase c != right ignoreCase c

/-- The characters outside of the set. -/
def complement (set : CharSet) : CharSet :=
  fun ignoreCase c => !set ignoreCase c

/-- No character. -/
def none : CharSet :=
  property fun _ => false

end CharSet

/-! ## Atoms -/

/-- An atom of a class: a single character, which may begin a range, or a set. -/
inductive ClassAtom where
  | char (c : Char)
  | several (set : CharSet)

/-- The characters of an atom. -/
def ClassAtom.members : ClassAtom → CharSet
  | .char c => .single c
  | .several set => set

/-- The atom that a backslash and the next character stand for. -/
def escapedAtom? (c : Char) : Option ClassAtom :=
  match c with
  | 'd' => some (.several (.property Text.isDecimalDigit))
  | 'D' => some (.several (.complement (.property Text.isDecimalDigit)))
  | 's' => some (.several (.property Text.isBlank))
  | 'S' => some (.several (.complement (.property Text.isBlank)))
  | 'w' => some (.several (.property Text.isWordChar))
  | 'W' => some (.several (.complement (.property Text.isWordChar)))
  | 'a' => some (.char '\x07')
  | 't' => some (.char '\t')
  | 'n' => some (.char '\n')
  | 'v' => some (.char '\x0b')
  | 'f' => some (.char '\x0c')
  | 'r' => some (.char '\r')
  | c =>
      if c.toNat < 128 && !c.isAlphanum && c != '<' && c != '>' then some (.char c)
      else none

/-- The atom that stands first in the text, and the text behind it. -/
def classAtom? : List Char → Option (ClassAtom × List Char)
  | '\\' :: c :: rest => (escapedAtom? c).map fun atom => (atom, rest)
  | '\\' :: [] => none
  | c :: rest => some (.char c, rest)
  | [] => none

/-- An atom or a range, and the text behind it.  A dash before a closing bracket or
before another dash makes no range. -/
def classItem? (chars : List Char) : Option (CharSet × List Char) := do
  let (atom, rest) ← classAtom? chars
  match atom, rest with
  | atom, '-' :: ']' :: behind => return (atom.members, '-' :: ']' :: behind)
  | atom, '-' :: '-' :: behind => return (atom.members, '-' :: '-' :: behind)
  | .char low, '-' :: rest =>
      match ← classAtom? rest with
      | (.char high, rest) => if low ≤ high then return (.range low high, rest) else failure
      | (.several _, _) => failure
  | .several _, '-' :: _ => failure
  | atom, rest => return (atom.members, rest)

/-- The set with a name for some ASCII characters. -/
def namedSet? : String → Option CharSet
  | "alnum" => some (.ranges [('0', '9'), ('A', 'Z'), ('a', 'z')])
  | "alpha" => some (.ranges [('A', 'Z'), ('a', 'z')])
  | "ascii" => some (.ranges [('\x00', '\x7f')])
  | "blank" => some (.ranges [('\t', '\t'), (' ', ' ')])
  | "cntrl" => some (.ranges [('\x00', '\x1f'), ('\x7f', '\x7f')])
  | "digit" => some (.ranges [('0', '9')])
  | "graph" => some (.ranges [('!', '~')])
  | "lower" => some (.ranges [('a', 'z')])
  | "print" => some (.ranges [(' ', '~')])
  | "punct" => some (.ranges [('!', '/'), (':', '@'), ('[', '\x60'), ('\x7b', '~')])
  | "space" => some (.ranges [('\t', '\r'), (' ', ' ')])
  | "upper" => some (.ranges [('A', 'Z')])
  | "word" => some (.ranges [('0', '9'), ('A', 'Z'), ('_', '_'), ('a', 'z')])
  | "xdigit" => some (.ranges [('0', '9'), ('A', 'F'), ('a', 'f')])
  | _ => none

/-- A named set between colons, behind the bracket that opens it, and the text behind
it. -/
def namedClass? : List Char → Option (CharSet × List Char)
  | ':' :: '^' :: rest => (named? rest).map fun (set, rest) => (set.complement, rest)
  | ':' :: rest => named? rest
  | _ => none
where
  /-- The name, up to the closing colon and bracket. -/
  named? (chars : List Char) : Option (CharSet × List Char) :=
    match chars.dropWhile (· != ':') with
    | ':' :: ']' :: rest =>
        (namedSet? (String.ofList (chars.takeWhile (· != ':')))).map fun set => (set, rest)
    | _ => none

/-! ## Lists and operators -/

/-- A part of a class, and how deeply its notation is nested. -/
structure ClassPart where
  set : CharSet
  depth : Nat

namespace ClassPart

/-- Several parts side by side; they are nested more deeply than each of them. -/
def list : List ClassPart → ClassPart
  | [] => { set := .none, depth := 0 }
  | [part] => part
  | parts =>
      { set := parts.foldr (fun part rest => part.set.union rest) .none
        depth := (parts.map (·.depth)).foldl max 0 + 1 }

end ClassPart

/-- How two lists of a class are combined. -/
inductive ClassOperator where
  | intersection | difference | symmetricDifference
  deriving DecidableEq, Repr

/-- The combination of two parts. -/
def ClassOperator.combine (operator : ClassOperator) (left right : ClassPart) :
    ClassPart where
  set :=
    match operator with
    | .intersection => left.set.inter right.set
    | .difference => left.set.inter right.set.complement
    | .symmetricDifference => left.set.symmetricDifference right.set
  depth := max left.depth right.depth + 1

/-- A class that is open: whether its complement is meant, what stands to the left of the
last operator, and the parts of the current list, last first. -/
structure OpenClass where
  negated : Bool
  left : Option (ClassOperator × ClassPart)
  parts : List ClassPart

namespace OpenClass

/-- Add a part to the current list. -/
def add (part : ClassPart) (current : OpenClass) : OpenClass :=
  { current with parts := part :: current.parts }

/-- All that has been read. -/
def operand (current : OpenClass) : ClassPart :=
  let right := ClassPart.list current.parts.reverse
  match current.left with
  | some (operator, left) => operator.combine left right
  | none => right

/-- Begin another list behind an operator. -/
def operate (operator : ClassOperator) (current : OpenClass) : OpenClass :=
  { current with left := some (operator, current.operand), parts := [] }

/-- The class as a part of the one around it. -/
def close (current : OpenClass) : ClassPart :=
  let operand := current.operand
  { set := if current.negated then operand.set.complement else operand.set
    depth := operand.depth + 1 }

/-- Dashes at the front, or else a closing bracket there, stand for themselves. -/
def ofFront (negated : Bool) (chars : List Char) : OpenClass × List Char :=
  let literal (c : Char) : ClassPart := { set := .single c, depth := 0 }
  match chars.takeWhile (· == '-'), chars.dropWhile (· == '-') with
  | [], ']' :: rest => ({ negated, left := none, parts := [literal ']'] }, rest)
  | dashes, rest => ({ negated, left := none, parts := dashes.map literal }, rest)

/-- A class behind its opening bracket, and what follows its front. -/
def start : List Char → OpenClass × List Char
  | '^' :: rest => ofFront true rest
  | rest => ofFront false rest

end OpenClass

/-! ## Classes -/

/-- Read on to the bracket that closes the outermost class.  Every step takes a
character. -/
def classRest? : Nat → OpenClass → List OpenClass → List Char →
    Option (ClassPart × List Char)
  | 0, _, _, _ => none
  | _ + 1, _, _, [] => none
  | fuel + 1, current, outer, '[' :: rest =>
      match namedClass? rest with
      | some (set, rest) => classRest? fuel (current.add { set, depth := 0 }) outer rest
      | none =>
          let (inner, rest) := OpenClass.start rest
          classRest? fuel inner (current :: outer) rest
  | fuel + 1, current, outer, ']' :: rest =>
      match outer with
      | [] => some (current.close, rest)
      | next :: outer => classRest? fuel (next.add current.close) outer rest
  | fuel + 1, current, outer, '&' :: '&' :: rest =>
      classRest? fuel (current.operate .intersection) outer rest
  | fuel + 1, current, outer, '-' :: '-' :: rest =>
      classRest? fuel (current.operate .difference) outer rest
  | fuel + 1, current, outer, '~' :: '~' :: rest =>
      classRest? fuel (current.operate .symmetricDifference) outer rest
  | fuel + 1, current, outer, chars => do
      let (set, rest) ← classItem? chars
      classRest? fuel (current.add { set, depth := 0 }) outer rest

/-- A class behind its opening bracket, and the text behind it. -/
def classBody? (chars : List Char) : Option (ClassPart × List Char) :=
  let (current, rest) := OpenClass.start chars
  classRest? (rest.length + 1) current [] rest

end GoMend.Pattern
