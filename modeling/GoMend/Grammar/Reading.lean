import GoMend.Grammar.Declarations

/-!
# Reading a file

The productions are tied together by a bound on how deeply they may nest.  Every
few steps inwards a word is read, so a bound that grows with the number of words
is never reached.
-/

namespace GoMend

namespace Production

/-- What a production reads, given a reader for the productions below it. -/
def body (below : Reader) : (production : Production) → Parser production.Result
  | .binary floor => Grammar.binary below floor
  | .binaryTail floor left => Grammar.binaryTail below floor left
  | .unary => Grammar.unary below
  | .primaryTail operand => Grammar.primaryTail below operand
  | .exprTail => Grammar.exprTail below
  | .arguments => Grammar.arguments below
  | .elements => Grammar.elements below
  | .element => Grammar.element below
  | .type => Grammar.type below
  | .params => Grammar.params below
  | .structFields => Grammar.structFields below
  | .interfaceMembers => Grammar.interfaceMembers below
  | .block => Grammar.block below
  | .stmts => Grammar.stmts below
  | .stmt => Grammar.stmt below
  | .conditional => Grammar.conditional below
  | .caseClauses => Grammar.caseClauses below
  | .commClauses => Grammar.commClauses below
  | .identTail => Grammar.identTail below
  | .specs keyword => Grammar.specs below keyword
  | .imports => Grammar.imports below
  | .decls => Grammar.decls below

/-- A reader that lets productions nest at most as deeply as the bound says. -/
def read : Nat → Reader
  | 0, _ => Parser.fail .exhausted
  | bound + 1, production => production.body (read bound)

end Production

namespace File

/-- A bound on the nesting of productions in a text of so many words. -/
def nestingBound (words : Nat) : Nat :=
  16 * (words + 1)

/-- Read a text as a file. -/
def parse (text : String) : Except SyntaxError File :=
  let state := ParserState.ofText text
  match Grammar.file (Production.read (nestingBound state.ahead.length)) state with
  | .ok file _ => .ok file
  | .error error _ => .error error

end File

end GoMend
