/-!
# Kinds of tokens

The lexical categories of a source text, the fixed spelling of those that have
one, and the facts that the grammar asks of a category: whether it is skipped by
the grammar, whether it is a keyword, and whether a line that ends in it ends a
statement.
-/

namespace GoMend

/-- The category of a token. -/
inductive Kind where
  | newline | lineComment | blockComment
  | identifier | int | float | imaginary | char | string
  | plus | minus | star | slash | percent | amp | pipe | caret | shl | shr
  | ampCaret | plusEq | minusEq | starEq | slashEq | percentEq | ampEq | pipeEq
  | caretEq | shlEq | shrEq | ampCaretEq | ampAmp | pipePipe | arrow | plusPlus
  | minusMinus | eqEq | lt | gt | eq | bang | tilde | bangEq | ltEq | gtEq
  | colonEq | ellipsis
  | leftParen | rightParen | leftBracket | rightBracket | leftBrace
  | rightBrace | comma | semicolon | dot | colon
  | breakKw | caseKw | chanKw | constKw | continueKw | defaultKw | deferKw
  | elseKw | fallthroughKw | forKw | funcKw | goKw | gotoKw | ifKw | importKw
  | interfaceKw | mapKw | packageKw | rangeKw | returnKw | selectKw | structKw
  | switchKw | typeKw | varKw
  | error | endOfFile
  deriving DecidableEq, Repr

namespace Kind

/-- The name of the category in messages and listings. -/
def name : Kind → String
  | .newline => "newline"
  | .lineComment => "line_comment"
  | .blockComment => "block_comment"
  | .identifier => "ident"
  | .int => "int"
  | .float => "float"
  | .imaginary => "imag"
  | .char => "char"
  | .string => "string"
  | .plus => "plus"
  | .minus => "minus"
  | .star => "star"
  | .slash => "slash"
  | .percent => "percent"
  | .amp => "amp"
  | .pipe => "pipe"
  | .caret => "caret"
  | .shl => "shl"
  | .shr => "shr"
  | .ampCaret => "amp_caret"
  | .plusEq => "plus_eq"
  | .minusEq => "minus_eq"
  | .starEq => "star_eq"
  | .slashEq => "slash_eq"
  | .percentEq => "percent_eq"
  | .ampEq => "amp_eq"
  | .pipeEq => "pipe_eq"
  | .caretEq => "caret_eq"
  | .shlEq => "shl_eq"
  | .shrEq => "shr_eq"
  | .ampCaretEq => "amp_caret_eq"
  | .ampAmp => "amp_amp"
  | .pipePipe => "pipe_pipe"
  | .arrow => "arrow"
  | .plusPlus => "plus_plus"
  | .minusMinus => "minus_minus"
  | .eqEq => "eq_eq"
  | .lt => "lt"
  | .gt => "gt"
  | .eq => "eq"
  | .bang => "bang"
  | .tilde => "tilde"
  | .bangEq => "bang_eq"
  | .ltEq => "lt_eq"
  | .gtEq => "gt_eq"
  | .colonEq => "colon_eq"
  | .ellipsis => "ellipsis"
  | .leftParen => "l_paren"
  | .rightParen => "r_paren"
  | .leftBracket => "l_bracket"
  | .rightBracket => "r_bracket"
  | .leftBrace => "l_brace"
  | .rightBrace => "r_brace"
  | .comma => "comma"
  | .semicolon => "semicolon"
  | .dot => "dot"
  | .colon => "colon"
  | .breakKw => "break"
  | .caseKw => "case"
  | .chanKw => "chan"
  | .constKw => "const"
  | .continueKw => "continue"
  | .defaultKw => "default"
  | .deferKw => "defer"
  | .elseKw => "else"
  | .fallthroughKw => "fallthrough"
  | .forKw => "for"
  | .funcKw => "func"
  | .goKw => "go"
  | .gotoKw => "goto"
  | .ifKw => "if"
  | .importKw => "import"
  | .interfaceKw => "interface"
  | .mapKw => "map"
  | .packageKw => "package"
  | .rangeKw => "range"
  | .returnKw => "return"
  | .selectKw => "select"
  | .structKw => "struct"
  | .switchKw => "switch"
  | .typeKw => "type"
  | .varKw => "var"
  | .error => "error"
  | .endOfFile => "eof"

/-- The text of an operator, a punctuation mark or a keyword; the other categories
have no fixed text. -/
def spelling? : Kind → Option String
  | .plus => some "+"
  | .minus => some "-"
  | .star => some "*"
  | .slash => some "/"
  | .percent => some "%"
  | .amp => some "&"
  | .pipe => some "|"
  | .caret => some "^"
  | .shl => some "<<"
  | .shr => some ">>"
  | .ampCaret => some "&^"
  | .plusEq => some "+="
  | .minusEq => some "-="
  | .starEq => some "*="
  | .slashEq => some "/="
  | .percentEq => some "%="
  | .ampEq => some "&="
  | .pipeEq => some "|="
  | .caretEq => some "^="
  | .shlEq => some "<<="
  | .shrEq => some ">>="
  | .ampCaretEq => some "&^="
  | .ampAmp => some "&&"
  | .pipePipe => some "||"
  | .arrow => some "<-"
  | .plusPlus => some "++"
  | .minusMinus => some "--"
  | .eqEq => some "=="
  | .lt => some "<"
  | .gt => some ">"
  | .eq => some "="
  | .bang => some "!"
  | .tilde => some "~"
  | .bangEq => some "!="
  | .ltEq => some "<="
  | .gtEq => some ">="
  | .colonEq => some ":="
  | .ellipsis => some "..."
  | .leftParen => some "("
  | .rightParen => some ")"
  | .leftBracket => some "["
  | .rightBracket => some "]"
  | .leftBrace => some "\x7b"
  | .rightBrace => some "\x7d"
  | .comma => some ","
  | .semicolon => some ";"
  | .dot => some "."
  | .colon => some ":"
  | .breakKw => some "break"
  | .caseKw => some "case"
  | .chanKw => some "chan"
  | .constKw => some "const"
  | .continueKw => some "continue"
  | .defaultKw => some "default"
  | .deferKw => some "defer"
  | .elseKw => some "else"
  | .fallthroughKw => some "fallthrough"
  | .forKw => some "for"
  | .funcKw => some "func"
  | .goKw => some "go"
  | .gotoKw => some "goto"
  | .ifKw => some "if"
  | .importKw => some "import"
  | .interfaceKw => some "interface"
  | .mapKw => some "map"
  | .packageKw => some "package"
  | .rangeKw => some "range"
  | .returnKw => some "return"
  | .selectKw => some "select"
  | .structKw => some "struct"
  | .switchKw => some "switch"
  | .typeKw => some "type"
  | .varKw => some "var"
  | _ => none

/-- The fixed text of a category, empty if it has none. -/
def spelling (kind : Kind) : String :=
  kind.spelling?.getD ""

/-- The keywords. -/
def keywords : List Kind :=
  [.breakKw, .caseKw, .chanKw, .constKw, .continueKw, .defaultKw, .deferKw,
   .elseKw, .fallthroughKw, .forKw, .funcKw, .goKw, .gotoKw, .ifKw, .importKw,
   .interfaceKw, .mapKw, .packageKw, .rangeKw, .returnKw, .selectKw, .structKw,
   .switchKw, .typeKw, .varKw]

/-- The operators. -/
def operators : List Kind :=
  [.plus, .minus, .star, .slash, .percent, .amp, .pipe, .caret, .shl, .shr,
   .ampCaret, .plusEq, .minusEq, .starEq, .slashEq, .percentEq, .ampEq, .pipeEq,
   .caretEq, .shlEq, .shrEq, .ampCaretEq, .ampAmp, .pipePipe, .arrow, .plusPlus,
   .minusMinus, .eqEq, .lt, .gt, .eq, .bang, .tilde, .bangEq, .ltEq, .gtEq,
   .colonEq, .ellipsis]

/-- The punctuation marks. -/
def punctuation : List Kind :=
  [.leftParen, .rightParen, .leftBracket, .rightBracket, .leftBrace,
   .rightBrace, .comma, .semicolon, .dot, .colon]

/-- A line break or a comment: no word of the grammar. -/
def isTrivia : Kind → Bool
  | .newline | .lineComment | .blockComment => true
  | _ => false

/-- A reserved word. -/
def isKeyword (kind : Kind) : Bool :=
  keywords.contains kind

/-- A line break after a token of this category ends the statement. -/
def endsStatement : Kind → Bool
  | .identifier | .int | .float | .imaginary | .char | .string
  | .breakKw | .continueKw | .fallthroughKw | .returnKw
  | .plusPlus | .minusMinus | .rightParen | .rightBracket | .rightBrace => true
  | _ => false

/-- How a message speaks of a token of this category. -/
def describe : Kind → String
  | .semicolon => "';'"
  | .endOfFile => "EOF"
  | .identifier => "identifier"
  | kind => kind.name

end Kind

end GoMend
