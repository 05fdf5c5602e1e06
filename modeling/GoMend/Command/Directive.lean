import GoMend.Command.Options
import GoMend.Pattern.Compiler
import GoMend.Text.Alphanumeric

/-!
# Directives

A directive tells which events are logged: the most detailed level that is let through,
perhaps only for events whose target begins with a given text, that carry a given field,
or that happen inside of a given span.  It is read sign by sign.
-/

namespace GoMend

/-- How detailed an event is. -/
inductive LogLevel where
  | error | warn | info | debug | trace
  deriving DecidableEq, Repr

namespace LogLevel

/-- The rank of a level: the more detailed, the higher. -/
def rank : LogLevel → Nat
  | .error => 1
  | .warn => 2
  | .info => 3
  | .debug => 4
  | .trace => 5

/-- The name of a level in a logged line. -/
def name : LogLevel → String
  | .error => "ERROR"
  | .warn => "WARN"
  | .info => "INFO"
  | .debug => "DEBUG"
  | .trace => "TRACE"

/-- The highest rank that a directive lets through: a name in any case, or a
number. -/
def limit? (text : List Char) : Option Nat :=
  match String.ofList (text.map Char.toLower) with
  | "off" => some 0
  | "error" => some 1
  | "warn" => some 2
  | "info" => some 3
  | "debug" => some 4
  | "trace" => some 5
  | text => (Options.count? text).filter (· ≤ 5)

end LogLevel

/-- A field that an event has to carry, and whether a certain value is asked for. -/
structure FieldDemand where
  name : List Char
  hasValue : Bool
  deriving DecidableEq, Repr

/-- A directive. -/
structure Directive where
  target : Option (List Char)
  /-- Whether a span is named. -/
  hasSpan : Bool
  field : Option FieldDemand
  limit : Nat
  deriving DecidableEq, Repr

/-- Why a directive cannot be read. -/
inductive DirectiveFault where
  | malformed
  /-- A name would have to be cut out of the text in the middle of a character. -/
  | torn
  deriving DecidableEq, Repr

namespace Directive

/-- A directive that concerns all events and lets everything through. -/
def everything : Directive where
  target := none
  hasSpan := false
  field := none
  limit := LogLevel.trace.rank

/-! ## Cutting names -/

/-- The text behind so many bytes. -/
def dropBytes : Nat → List Char → Except DirectiveFault (List Char)
  | 0, chars => .ok chars
  | _ + 1, [] => .ok []
  | bytes + 1, c :: rest =>
      if bytes + 1 < c.utf8Size then .error .torn
      else dropBytes (bytes + 1 - c.utf8Size) rest

/-- The first so many bytes of a text. -/
def takeBytes : Nat → List Char → Except DirectiveFault (List Char)
  | 0, _ => .ok []
  | _ + 1, [] => .ok []
  | bytes + 1, c :: rest =>
      if bytes + 1 < c.utf8Size then .error .torn
      else (takeBytes (bytes + 1 - c.utf8Size) rest).map (c :: ·)

/-- The part of a text from one byte to another. -/
def cut (text : List Char) (start stop : Nat) : Except DirectiveFault (List Char) := do
  takeBytes (stop - start) (← dropBytes start text)

/-- The characters of a text, each with the number of bytes before it. -/
def places : Nat → List Char → List (Nat × Char)
  | _, [] => []
  | offset, c :: rest => (offset, c) :: places (offset + c.utf8Size) rest

/-! ## Reading -/

/-- How far a directive has been read; the numbers tell where the part begins that is
being read. -/
inductive Stage where
  | start
  /-- In a level or a target. -/
  | word (start : Nat)
  | span (start : Nat)
  | field (start : Nat)
  | behindField
  | behindSpan
  | level (start : Nat)
  deriving DecidableEq, Repr

/-- Whether a directive may begin with the character. -/
def canStart (c : Char) : Bool :=
  c == '-' || c == ':' || c == '_' || Text.isAlphanumeric c

/-- Numbers that can be asked for: with a point and an exponent, or a word for one that is
not finite. -/
def numberShape : Pattern :=
  let sign := (Pattern.oneOf "+-").optional
  let digit := Pattern.one Char.isDigit
  let point := Pattern.char '.'
  let word (name : String) : Pattern :=
    .all (name.toList.map fun letter => .one fun c => c.toLower == letter)
  .all [sign,
    .any [
      .all [
        .any [.all [digit.atLeastOnce, point.optional, .many digit],
          .all [point, digit.atLeastOnce]],
        (Pattern.all [.oneOf "eE", sign, digit.atLeastOnce]).optional],
      word "inf", word "infinity", word "nan"]]

/-- Whether a text is such a number. -/
def isNumber (text : List Char) : Bool :=
  numberShape.longest? text == some text.length

/-- A field with its value, which is a number or a pattern. -/
def fieldDemand (compiler : PatternCompiler) (text : List Char) :
    Except DirectiveFault FieldDemand :=
  let name := text.takeWhile (· != '=')
  match text.dropWhile (· != '=') with
  | _ :: behind =>
      let value := behind.takeWhile (· != '=')
      if isNumber value || (compiler.compile? (String.ofList value)).isSome then
        .ok { name, hasValue := true }
      else .error .malformed
  | [] => if name.isEmpty then .error .malformed else .ok { name, hasValue := false }

/-- Read the sign at a place.  Names are cut out of the given text. -/
def readSign (compiler : PatternCompiler) (text : List Char) (reading : Directive × Stage)
    (place : Nat × Char) : Except DirectiveFault (Directive × Stage) :=
  let (directive, stage) := reading
  let (offset, c) := place
  match stage with
  | .start =>
      if c = '[' then .ok (directive, .span (offset + 1))
      else if canStart c then .ok (directive, .word offset)
      else .error .malformed
  | .word start =>
      if c = '=' then do
        return ({ directive with target := some (← cut text start offset) },
          .level (offset + 1))
      else if c = '[' then do
        return ({ directive with target := some (← cut text start offset) },
          .span (offset + 1))
      else .ok (directive, .word start)
  | .span start =>
      if c = ']' then do
        let _ ← cut text start offset
        return ({ directive with hasSpan := true }, .behindSpan)
      else if c = '\x7b' then do
        let name ← cut text start offset
        return ({ directive with hasSpan := !name.isEmpty }, .field (offset + 1))
      else .ok (directive, .span start)
  | .field start =>
      if c = '\x7d' then do
        let demand ← fieldDemand compiler (← cut text start offset)
        return ({ directive with field := some demand }, .behindField)
      else .ok (directive, .field start)
  | .behindField =>
      if c = ']' then .ok (directive, .behindSpan) else .error .malformed
  | .behindSpan =>
      if c = '=' then .ok (directive, .level (offset + 1)) else .error .malformed
  | .level start => .ok (directive, .level start)

/-- Complete a directive at the end of its text. -/
def complete (text : List Char) (reading : Directive × Stage) :
    Except DirectiveFault Directive :=
  let (directive, stage) := reading
  match stage with
  | .word start => do
      let word ← dropBytes start text
      match LogLevel.limit? word with
      | some limit => return { directive with limit }
      | none => return { directive with target := some word }
  | .level start => do
      let word ← dropBytes start text
      if word.isEmpty then return directive
      else
        match LogLevel.limit? word with
        | some limit => return { directive with limit }
        | none => throw .malformed
  | .behindSpan => .ok directive
  | _ => .error .malformed

/-- Read a directive.  The signs are looked for behind the blanks at its front, but
names are cut out of the text with these blanks, by the same numbers of bytes. -/
def ofText (compiler : PatternCompiler) (text : List Char) :
    Except DirectiveFault Directive := do
  let visible := (Text.trim (String.ofList text)).toList
  complete text (← (places 0 visible).foldlM (readSign compiler text) (everything, .start))

/-! ## Effect -/

/-- Whether the directive depends on spans or fields. -/
def isConditional (directive : Directive) : Bool :=
  directive.hasSpan || directive.field.isSome

/-- Whether the directive can decide about an event by what the event itself tells. -/
def decidesAlone (directive : Directive) : Bool :=
  !directive.hasSpan && !directive.field.any (·.hasValue)

/-- Whether the directive concerns an event with the given target and fields. -/
def concerns (directive : Directive) (target : String) (fields : List String) : Bool :=
  directive.target.all (·.isPrefixOf target.toList) &&
    directive.field.all fun demand => fields.contains (String.ofList demand.name)

/-- The number of bytes of the target. -/
def targetSize (directive : Directive) : Option Nat :=
  directive.target.map fun target => (String.ofList target).utf8ByteSize

/-- How closely two directives look: the one with the longer target looks more closely,
then the one that asks for a field, and else the names decide. -/
def compareCloseness (first second : Directive) : Ordering :=
  (compare first.targetSize second.targetSize)
    |>.then (compare first.field.isSome second.field.isSome)
    |>.then (compare first.target second.target)
    |>.then (compare (first.field.map (·.name)) (second.field.map (·.name)))

end Directive

end GoMend
