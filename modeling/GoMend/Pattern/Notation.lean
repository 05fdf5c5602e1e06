import GoMend.Pattern.CharClass
import GoMend.Text.Alphanumeric

/-!
# The notation of name patterns

A configuration gives patterns as texts: literals, `.`, classes, anchors, groups,
alternation, repetition, and the flags `i` (regard no case) and `s` (the dot takes
line breaks too).  Reading goes in two steps.  The text is cut into signs, and the
signs are assembled from left to right, where every open group is a frame on a
stack.  Greed is of no account, for a pattern is only ever asked whether it occurs.
Patterns that are nested too deeply are refused.
-/

namespace GoMend.Pattern

/-! ## Signs -/

/-- The flags that hold at a place of the text. -/
structure Flags where
  ignoreCase : Bool
  dotNewline : Bool
  deriving DecidableEq, Repr

/-- A sign of the notation. -/
inductive Sign where
  /-- One character out of a set, and how deeply the notation of the set is nested. -/
  | one (set : CharSet) (depth : Nat)
  | dot
  | textStart
  | textEnd
  | repeated (least : Nat) (most : Option Nat)
  | alternative
  | groupOpen (name : Option String) (change : Flags → Flags)
  | groupClose
  /-- Flags for the rest of the group. -/
  | flags (change : Flags → Flags)

/-- Counts of repetitions beyond this one are refused. -/
def maxCount : Nat :=
  1000

/-- A decimal number and the text behind it. -/
def count? (chars : List Char) : Option (Nat × List Char) :=
  let digits := chars.takeWhile Char.isDigit
  let value := digits.foldl (fun value c => value * 10 + (c.toNat - '0'.toNat)) 0
  if digits.isEmpty ∨ value > maxCount then none
  else some (value, chars.dropWhile Char.isDigit)

/-- A counted repetition behind its opening brace. -/
def countedRepetition? (chars : List Char) : Option (Sign × List Char) := do
  let (least, rest) ← count? chars
  match rest with
  | '}' :: rest => return (.repeated least (some least), rest)
  | ',' :: '}' :: rest => return (.repeated least none, rest)
  | ',' :: rest =>
      let (most, rest) ← count? rest
      match rest with
      | '}' :: rest =>
          if least ≤ most then return (.repeated least (some most), rest) else failure
      | _ => failure
  | _ => failure

/-- What a backslash and the next character stand for. -/
def escape? (c : Char) : Option Sign :=
  match c with
  | 'A' => some .textStart
  | 'z' => some .textEnd
  | c => (escapedAtom? c).map fun atom => .one atom.members 0

/-- A class behind its opening bracket. -/
def class? (chars : List Char) : Option (Sign × List Char) :=
  (classBody? chars).map fun (part, rest) => (.one part.set part.depth, rest)

/-! ### Groups -/

/-- The change that a flag letter stands for when it is set or taken back.  Greed is of
no account, and Unicode cannot be taken back. -/
def flagChange? (value : Bool) : Char → Option (Flags → Flags)
  | 'i' => some fun flags => { flags with ignoreCase := value }
  | 's' => some fun flags => { flags with dotNewline := value }
  | 'U' => some id
  | 'u' => if value then some id else none
  | _ => none

/-- The change that flag letters stand for, and the text behind them, which begins
with the character that ends them.  No letter may come twice. -/
def flagLetters? (seen : List Char) (value : Bool) (change : Flags → Flags) :
    List Char → Option ((Flags → Flags) × List Char)
  | [] => none
  | c :: rest =>
      if c = ')' ∨ c = ':' then some (change, c :: rest)
      else if c = '-' then
        if value ∧ rest.head? ≠ some ')' ∧ rest.head? ≠ some ':' then
          flagLetters? seen false change rest
        else none
      else if seen.contains c then none
      else
        match flagChange? value c with
        | some next => flagLetters? (c :: seen) value (next ∘ change) rest
        | none => none

/-- The name of a group and the text behind its closing bracket. -/
def groupName? (chars : List Char) : Option (String × List Char) :=
  let isNameChar (c : Char) : Bool :=
    c == '_' || c == '.' || c == '[' || c == ']' || Text.isAlphanumeric c
  match chars.takeWhile isNameChar, chars.dropWhile isNameChar with
  | first :: others, '>' :: rest =>
      if first = '_' ∨ Text.isLetter first then
        some (String.ofList (first :: others), rest)
      else none
  | _, _ => none

/-- The opening of a group, or a change of flags, behind its parenthesis. -/
def group? : List Char → Option (Sign × List Char)
  | '?' :: 'P' :: '<' :: rest | '?' :: '<' :: rest =>
      (groupName? rest).map fun (name, rest) => (.groupOpen (some name) id, rest)
  | '?' :: ')' :: _ => none
  | '?' :: rest =>
      match flagLetters? [] true id rest with
      | some (change, ':' :: rest) => some (.groupOpen none change, rest)
      | some (change, ')' :: rest) => some (.flags change, rest)
      | _ => none
  | rest => some (.groupOpen none id, rest)

/-! ### The sequence of signs -/

/-- The sign that stands first in the text, and the text behind it. -/
def sign? : List Char → Option (Sign × List Char)
  | [] => none
  | '.' :: rest => some (.dot, rest)
  | '^' :: rest => some (.textStart, rest)
  | '$' :: rest => some (.textEnd, rest)
  | '|' :: rest => some (.alternative, rest)
  | '(' :: rest => group? rest
  | ')' :: rest => some (.groupClose, rest)
  | '[' :: rest => class? rest
  | '*' :: '?' :: rest | '*' :: rest => some (.repeated 0 none, rest)
  | '+' :: '?' :: rest | '+' :: rest => some (.repeated 1 none, rest)
  | '?' :: '?' :: rest | '?' :: rest => some (.repeated 0 (some 1), rest)
  | '{' :: rest =>
      match countedRepetition? rest with
      | some (sign, '?' :: rest) => some (sign, rest)
      | result => result
  | '\\' :: c :: rest => (escape? c).map fun sign => (sign, rest)
  | '\\' :: [] => none
  | c :: rest => some (.one (.single c) 0, rest)

/-- All signs of a text.  Every sign takes a character, so as many steps as there
are characters suffice. -/
def signs? : Nat → List Char → Option (List Sign)
  | _, [] => some []
  | 0, _ :: _ => none
  | fuel + 1, chars => do
      let (sign, rest) ← sign? chars
      let others ← signs? fuel rest
      return sign :: others

/-! ## Assembly -/

/-- At least and at most as many repetitions as given. -/
def repeatedBetween (body : Pattern) (least : Nat) : Option Nat → Pattern
  | none => .followedBy (all (List.replicate least body)) (.many body)
  | some most =>
      .followedBy (all (List.replicate least body))
        ((List.replicate (most - least) body).foldr
          (fun body rest => .optional (.followedBy body rest)) .empty)

/-- A part of a pattern, and how deeply its notation is nested. -/
structure Part where
  pattern : Pattern
  depth : Nat

namespace Part

/-- How deeply several parts are nested that stand side by side; a single part is not
nested any further by standing alone. -/
def depthOf : List Part → Nat
  | [] => 0
  | [part] => part.depth
  | parts => (parts.map (·.depth)).foldl max 0 + 1

end Part

/-- A group that is open: the flags that hold in it, the alternatives that are
complete, and the parts of the current one, all last first. -/
structure Frame where
  flags : Flags
  alternatives : List Part
  parts : List Part

namespace Frame

/-- A group at whose start the flags hold. -/
def start (flags : Flags) : Frame :=
  { flags, alternatives := [], parts := [] }

/-- The current alternative. -/
def current (frame : Frame) : Part where
  pattern := all (frame.parts.reverse.map (·.pattern))
  depth := Part.depthOf frame.parts

/-- What the group holds. -/
def whole (frame : Frame) : Part :=
  let alternatives := frame.alternatives.reverse ++ [frame.current]
  { pattern := any (alternatives.map (·.pattern)), depth := Part.depthOf alternatives }

/-- Add a part to the current alternative. -/
def add (part : Part) (frame : Frame) : Frame :=
  { frame with parts := part :: frame.parts }

end Frame

/-- The groups that are open, the names that are taken, and whether a repetition
may follow. -/
structure Assembly where
  frame : Frame
  outer : List Frame
  names : List String
  repeatable : Bool

namespace Assembly

/-- Nothing has been read. -/
def start : Assembly where
  frame := .start { ignoreCase := false, dotNewline := false }
  outer := []
  names := []
  repeatable := false

/-- Add a part that may be repeated. -/
def add (pattern : Pattern) (depth : Nat) (assembly : Assembly) : Assembly :=
  { assembly with frame := assembly.frame.add { pattern, depth }, repeatable := true }

/-- Add a sign. -/
def step? (assembly : Assembly) : Sign → Option Assembly
  | .one set depth =>
      some (assembly.add (.one (set assembly.frame.flags.ignoreCase)) depth)
  | .dot =>
      let test (c : Char) : Bool := assembly.frame.flags.dotNewline || c != '\n'
      some (assembly.add (.one test) 0)
  | .textStart => some (assembly.add .textStart 0)
  | .textEnd => some (assembly.add .textEnd 0)
  | .repeated least most =>
      match assembly.repeatable, assembly.frame.parts with
      | true, last :: parts =>
          let part : Part :=
            { pattern := repeatedBetween last.pattern least most, depth := last.depth + 1 }
          some { assembly with frame := { assembly.frame with parts := part :: parts } }
      | _, _ => none
  | .alternative =>
      some { assembly with
        frame := { assembly.frame with
          alternatives := assembly.frame.current :: assembly.frame.alternatives
          parts := [] }
        repeatable := false }
  | .groupOpen name change =>
      if name.any assembly.names.contains then none
      else
        some { frame := .start (change assembly.frame.flags)
               outer := assembly.frame :: assembly.outer
               names := name.toList ++ assembly.names
               repeatable := false }
  | .groupClose =>
      match assembly.outer with
      | [] => none
      | frame :: outer =>
          let inner := assembly.frame.whole
          let part : Part := { pattern := inner.pattern, depth := inner.depth + 1 }
          some { assembly with frame := frame.add part, outer, repeatable := true }
  | .flags change =>
      let mark : Part := { pattern := .empty, depth := 0 }
      let frame := assembly.frame.add mark
      some { assembly with
        frame := { frame with flags := change frame.flags }
        repeatable := false }

end Assembly

/-- Patterns that are nested more deeply than this are refused. -/
def maxDepth : Nat :=
  250

/-- The pattern that a text denotes in the notation, if it denotes one. -/
def ofText? (text : String) : Option Pattern := do
  let signs ← signs? text.length text.toList
  let assembly ← signs.foldlM Assembly.step? .start
  let whole := assembly.frame.whole
  if assembly.outer.isEmpty && whole.depth ≤ maxDepth then return whole.pattern else failure

end GoMend.Pattern
