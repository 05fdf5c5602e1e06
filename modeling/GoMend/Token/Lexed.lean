import GoMend.Token.Scan

/-!
# The words of the grammar

The grammar reads the tokens of a text without line breaks and comments.  A line
break after a token that can end a statement becomes a semicolon, and so does the
end of the text.  Comments are kept aside, in order.
-/

namespace GoMend

/-- The words of a text, with semicolons inserted, and its comments. -/
structure Lexed where
  tokens : List Token
  comments : List Token
  deriving DecidableEq, Repr

namespace Lexed

/-- A semicolon that stands for a line break, or with an empty text for the end of
the source. -/
def insertedSemicolon (text : String) (offset : Nat) : Token :=
  { kind := .semicolon, text, offset }

/-- A token that breaks the line without being a word of the grammar. -/
def breaksLine (token : Token) : Bool :=
  token.kind == .newline ||
    (token.kind == .blockComment && token.text.toList.contains '\n')

/-- The words among the tokens.  `pending` tells that the last word can end a
statement and no semicolon has followed it; `stop` is the offset of the end. -/
def words (stop : Nat) : Bool → List Token → List Token
  | pending, [] => if pending then [insertedSemicolon "" stop] else []
  | pending, token :: rest =>
      if token.kind.isTrivia then
        if pending && breaksLine token then
          insertedSemicolon "\n" token.offset :: words stop false rest
        else words stop pending rest
      else token :: words stop token.kind.endsStatement rest

/-- A line comment or a block comment. -/
def isComment (token : Token) : Bool :=
  token.kind == .lineComment || token.kind == .blockComment

/-- The words and the comments of a text. -/
def ofText (text : String) : Lexed :=
  let tokens := Token.scan text
  { tokens := words text.utf8ByteSize false tokens
    comments := tokens.filter isComment }

end Lexed

end GoMend
