import GoMend.Fault
import GoMend.Text.Blank
import GoMend.Text.Letter

/-!
# Diagnostics

A diagnostic is a message about a place in a file.  Its written form is
`path:line:column: message`.  Reading it back looks for the first two groups of a
colon and digits, so a path may hold colons and the message any number of them.
-/

namespace GoMend

/-- A message about a place in a file. -/
structure Diagnostic where
  path : Path
  position : Position
  message : String
  deriving DecidableEq, Repr

namespace Diagnostic

/-- What the message about an undefined name begins with. -/
def undefinedMark : String :=
  "undefined: "

/-- The report that a name is declared nowhere. -/
def undefined (path : Path) (position : Position) (name : String) : Diagnostic :=
  { path, position, message := undefinedMark ++ name }

/-- The text behind another one that it begins with. -/
def behind? : List Char → List Char → Option (List Char)
  | [], rest => some rest
  | _ :: _, [] => none
  | expected :: others, c :: rest => if c = expected then behind? others rest else none

/-- The name that is reported as undefined. -/
def undefinedName? (diagnostic : Diagnostic) : Option String :=
  (behind? undefinedMark.toList diagnostic.message.toList).map String.ofList

/-- The written form. -/
def render (diagnostic : Diagnostic) : String :=
  Wording.atPosition diagnostic.path.text diagnostic.position diagnostic.message

/-- The first group of a colon and decimal digits: the text before it, its digits,
and the text behind it. -/
def positionGroup? : List Char → Option (List Char × List Char × List Char)
  | [] => none
  | c :: rest =>
      let digits := rest.takeWhile Text.isDecimalDigit
      if c = ':' ∧ digits ≠ [] then
        some ([], digits, rest.dropWhile Text.isDecimalDigit)
      else
        (positionGroup? rest).map fun (before, digits, behind) =>
          (c :: before, digits, behind)

/-- The largest line or column. -/
def maxCoordinate : Nat :=
  UInt64.size - 1

/-- The number that ASCII digits stand for, within the range of coordinates. -/
def coordinate? (digits : List Char) : Option Nat :=
  if digits.all fun c => '0' ≤ c && c ≤ '9' then
    let value := digits.foldl (fun value c => value * 10 + (c.toNat - '0'.toNat)) 0
    if value ≤ maxCoordinate then some value else none
  else none

/-- Read the written form. -/
def ofText? (text : String) : Option Diagnostic := do
  let (path, lineDigits, rest) ← positionGroup? text.toList
  let (_, columnDigits, rest) ← positionGroup? rest
  let line ← coordinate? lineDigits
  let column ← coordinate? columnDigits
  let message := Text.trim (String.ofList (rest.dropWhile (· == ':')))
  return { path := ⟨String.ofList path⟩, position := { line, column }, message }

/-- Read the written form, or say that it is none. -/
def parse (text : String) : Except Fault Diagnostic :=
  match ofText? text with
  | some diagnostic => .ok diagnostic
  | none => .error (.malformedDiagnostic text)

end Diagnostic

end GoMend
