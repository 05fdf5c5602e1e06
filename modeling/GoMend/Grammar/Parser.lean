import GoMend.Grammar.Fault
import GoMend.Syntax.Tree
import GoMend.Text.Position
import GoMend.Token.Lexed

/-!
# Reading words

A parser reads words from the front of those that remain and keeps the comments
that have not found a node yet.  It ends with a result or with the first error; in
both cases the state tells how far it came, since one production looks at what
stands where an inner one failed.

The nesting level decides how a brace behind a type name is read: below zero, in
the header of a statement, it opens a block; otherwise it opens a literal.
-/

namespace GoMend

/-- What remains to be read, and where. -/
structure ParserState where
  /-- The words that remain. -/
  ahead : List Token
  /-- The comments that hang on no node yet. -/
  comments : List Token
  /-- The offset behind the last word read, inserted semicolons apart. -/
  lastStop : Nat
  level : Int
  lines : LineIndex

namespace ParserState

/-- The state before the first word of a text. -/
def ofText (text : String) : ParserState :=
  let lexed := Lexed.ofText text
  { ahead := lexed.tokens
    comments := lexed.comments
    lastStop := 0
    level := 0
    lines := LineIndex.ofText text }

/-- The category of the next word. -/
def kind (state : ParserState) : Kind :=
  match state.ahead with
  | [] => .endOfFile
  | token :: _ => token.kind

/-- The category of the word after the next one. -/
def secondKind (state : ParserState) : Kind :=
  match state.ahead with
  | _ :: token :: _ => token.kind
  | _ => .endOfFile

/-- Where the next word begins, or the end of the text. -/
def offset (state : ParserState) : Nat :=
  match state.ahead with
  | [] => state.lines.size
  | token :: _ => token.offset

/-- The next word, or the end of the text as a word of its own. -/
def token (state : ParserState) : Token :=
  match state.ahead with
  | [] => { kind := .endOfFile, text := "", offset := state.lines.size }
  | token :: _ => token

/-- The state at another nesting level. -/
def setLevel (state : ParserState) (level : Int) : ParserState :=
  { state with level }

/-- A semicolon that no character of the text spells. -/
def isInserted (token : Token) : Bool :=
  token.kind == .semicolon && token.text != ";"

/-- The state behind the next word; at the end of the text nothing changes. -/
def advance (state : ParserState) : ParserState :=
  match state.ahead with
  | [] => state
  | token :: rest =>
      { state with
        ahead := rest
        lastStop := if isInserted token then state.lastStop else token.stop }

end ParserState

/-- A computation that reads words. -/
abbrev Parser := EStateM SyntaxError ParserState

namespace Parser

variable {α : Type}

/-- Stop with a fault at the next word. -/
def fail (fault : SyntaxFault) : Parser α := fun state =>
  .error { fault, offset := state.offset } state

/-- Stop with a fault at a given offset. -/
def failAt (fault : SyntaxFault) (offset : Nat) : Parser α := fun state =>
  .error { fault, offset } state

/-- The category of the next word. -/
def peek : Parser Kind := fun state => .ok state.kind state

/-- The category of the word after the next one. -/
def peekSecond : Parser Kind := fun state => .ok state.secondKind state

/-- Whether the next word has the category. -/
def at? (kind : Kind) : Parser Bool := fun state => .ok (state.kind == kind) state

/-- Whether the next word has one of the categories. -/
def atAny (kinds : List Kind) : Parser Bool := fun state =>
  .ok (kinds.contains state.kind) state

/-- Read the next word, whatever it is. -/
def bump : Parser Token := fun state => .ok state.token state.advance

/-- Read the next word if it has the category; tell whether it had. -/
def eat (kind : Kind) : Parser Bool := fun state =>
  if state.kind == kind then .ok true state.advance else .ok false state

/-- Read the next word, which must have the category. -/
def expect (kind : Kind) : Parser Token := fun state =>
  if state.kind == kind then .ok state.token state.advance
  else .error { fault := .expected kind, offset := state.offset } state

/-- Read the end of a statement or entry.  Before a closing bracket and at the end
of the text nothing needs to stand there. -/
def expectSemicolon : Parser Unit := do
  if ← eat .semicolon then pure ()
  else if ← atAny [.rightParen, .rightBrace, .endOfFile] then pure ()
  else fail (.unterminated (← peek))

/-- Run a parser and return its error as a value, in the state where it failed. -/
def outcome (parser : Parser α) : Parser (Except SyntaxError α) := fun state =>
  match parser state with
  | .ok result state => .ok (.ok result) state
  | .error error state => .ok (.error error) state

/-- The nesting level. -/
def level : Parser Int := fun state => .ok state.level state

/-- Set the nesting level. -/
def setLevel (level : Int) : Parser Unit := fun state => .ok () (state.setLevel level)

/-- Change the nesting level, run a parser, and change the level again, however the parser ends.
The second change is told the level before the first one and the level that the parser left. -/
def atLevel (enter : Int → Int) (leave : Int → Int → Int) (parser : Parser α) : Parser α :=
  fun state =>
    let back (final : ParserState) : ParserState := final.setLevel (leave state.level final.level)
    match parser (state.setLevel (enter state.level)) with
    | .ok result final => .ok result (back final)
    | .error error final => .error error (back final)

/-- Inside brackets literals are free again: the level is raised by one, and then lowered by one. -/
def nested (parser : Parser α) : Parser α :=
  atLevel (· + 1) (fun _ inner => inner - 1) parser

/-- Inside braces the level starts afresh, and then it is what it was. -/
def fresh (parser : Parser α) : Parser α :=
  atLevel (fun _ => 0) (fun outer _ => outer) parser

/-- A comment token as a comment of the tree. -/
def toComment (token : Token) : Comment :=
  { text := token.text, offset := some token.offset }

/-- Take the comments that stand before the next word. -/
def takeDoc : Parser (List Comment) := fun state =>
  let before := state.comments.takeWhile (·.offset < state.offset)
  .ok (before.map toComment)
    { state with comments := state.comments.dropWhile (·.offset < state.offset) }

/-- Take the next comment if it stands before the next word and on the line on
which the last word ended. -/
def takeTrailing : Parser (Option Comment) := fun state =>
  match state.comments with
  | [] => .ok none state
  | comment :: rest =>
      if comment.offset < state.offset &&
          (state.lines.position comment.offset).line ==
            (state.lines.position state.lastStop).line then
        .ok (some (toComment comment)) { state with comments := rest }
      else .ok none state

/-- Take all comments that are left. -/
def takeRemaining : Parser (List Comment) := fun state =>
  .ok (state.comments.map toComment) { state with comments := [] }

/-- Read a name. -/
def ident : Parser Ident := do
  let token ← expect .identifier
  return { name := token.text, offset := some token.offset }

/-- A token as a literal of the tree. -/
def toLiteral (kind : LiteralKind) (token : Token) : Literal :=
  { kind, text := token.text, offset := some token.offset }

end Parser

end GoMend
