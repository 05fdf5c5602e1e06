import GoMend.Command.Run

/-!
# The line of the closing event

The closing event as one line: a sentence for readers, or a JSON object for
programs.
-/

namespace GoMend

namespace FileFault

/-- The reason in words. -/
def words : FileFault → String
  | .notFound => "no such file or directory"
  | .isDirectory => "is a directory"
  | .notDirectory => "not a directory"
  | .alreadyExists => "already exists"
  | .invalidData => "not a text"
  | .invalidInput => "not a regular file"
  | .directoryNotEmpty => "directory not empty"
  | .invalidFileName => "name too long"

end FileFault

namespace Fault

/-- The fault in words. -/
def words (fault : Fault) : String :=
  match fault.message?, fault with
  | some message, _ => message
  | none, .fileSystem action path reason =>
      Wording.fileSystem action.name path.text reason.words
  | none, .invalidPattern => "invalid pattern"
  | none, _ => Wording.configuration "malformed document"

end Fault

namespace JsonText

/-- The lower-case hexadecimal digits of a code point below 256. -/
def hexPair (code : Nat) : List Char :=
  [Nat.digitChar (code / 16), Nat.digitChar (code % 16)]

/-- A character inside of a quoted text. -/
def escape (c : Char) : List Char :=
  match c with
  | '"' => ['\\', '"']
  | '\\' => ['\\', '\\']
  | '\n' => ['\\', 'n']
  | '\r' => ['\\', 'r']
  | '\t' => ['\\', 't']
  | c => if c < ' ' then "\\u00".toList ++ hexPair c.toNat else [c]

/-- A quoted text. -/
def quote (text : String) : String :=
  String.ofList ('"' :: text.toList.flatMap escape ++ ['"'])

/-- An object with the given members, whose values are JSON texts. -/
def object (members : List (String × String)) : String :=
  let written := members.map fun (name, value) => quote name ++ ":" ++ value
  "\x7b" ++ String.intercalate "," written ++ "\x7d"

end JsonText

namespace Event

/-- What the event says in words. -/
def words : Event → String
  | .finished _ => "sync finished"
  | .failed fault => "sync cannot be finished: " ++ fault.words

/-- What the event carries besides its words. -/
def details : Event → List (String × String)
  | .finished report =>
      [("records", toString report.records.length), ("repairs", toString report.repairs),
        ("deprecated", toString report.removed.length),
        ("mapping", JsonText.quote report.table.text)]
  | .failed fault => [("stage", JsonText.quote fault.stage)]

/-- The line for programs. -/
def structuredLine (event : Event) : String :=
  JsonText.object
    [("level", JsonText.quote event.level.name),
      ("fields", JsonText.object
        (("message", JsonText.quote event.words) :: event.details)),
      ("target", JsonText.quote target)]

/-- The line for readers. -/
def plainLine (event : Event) : String :=
  let details := event.details.map fun (name, value) => " " ++ name ++ "=" ++ value
  event.level.name ++ " " ++ target ++ ": " ++ event.words ++ String.join details

end Event

namespace Options

/-- How the command is called. -/
def usage : String :=
  let words := OptionName.all.map fun name =>
    " [--" ++ name.word ++ (if name = .json then "]" else " <value>]")
  "usage: aggsync" ++ String.join words

end Options

namespace Outcome

/-- The line that the call prints, if it prints one. -/
def line? (outcome : Outcome) : Option String :=
  outcome.event.map fun event =>
    if outcome.structured then event.structuredLine else event.plainLine

end Outcome

end GoMend
