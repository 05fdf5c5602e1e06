import GoMend.Toml.Number

/-!
# Reading TOML

A document is read line by line.  A reader takes what it can from the front of a
text and hands out the rest, or refuses.  Values that hold others are read with a
bound on the number of steps, which the length of the text never exceeds.  Values that
are nested too deeply are refused, and so are keys of too many parts.
-/

namespace GoMend.Toml

/-! ## Characters -/

/-- Space and tab. -/
def isSpace (c : Char) : Bool :=
  c == ' ' || c == '\t'

/-- Characters that comments and strings may hold: no controls except the tab. -/
def isPrintable (c : Char) : Bool :=
  c == '\t' || (' ' ≤ c && c != '\x7f')

/-- The text behind leading spaces and tabs. -/
def skipSpace (chars : List Char) : List Char :=
  chars.dropWhile isSpace

/-- The text behind a line break, if it begins with one. -/
def newline? : List Char → Option (List Char)
  | '\n' :: rest => some rest
  | '\r' :: '\n' :: rest => some rest
  | _ => none

/-- The text behind spaces and a comment on the same line. -/
def skipComment (chars : List Char) : List Char :=
  match skipSpace chars with
  | '#' :: rest => rest.dropWhile isPrintable
  | rest => rest

/-- The text behind any number of lines that hold at most a comment. -/
def skipLines : Nat → List Char → List Char
  | 0, chars => chars
  | fuel + 1, chars =>
      let behind := skipComment chars
      match newline? behind with
      | some rest => skipLines fuel rest
      | none => behind

/-- The text behind everything that may stand between the elements of an array. -/
def skipBlank (chars : List Char) : List Char :=
  skipLines chars.length chars

/-- The text behind the end of a line, which may carry a comment. -/
def lineEnd? (chars : List Char) : Option (List Char) :=
  match skipComment chars with
  | [] => some []
  | behind => newline? behind

/-! ## Strings -/

/-- The character whose code point is written in so many hexadecimal digits. -/
def codePoint? (length : Nat) (chars : List Char) : Option (Char × List Char) := do
  let digits ← (chars.take length).mapM hexDigit?
  let code := valueOf 16 digits
  if digits.length = length ∧ code.isValidChar then
    return (Char.ofNat code, chars.drop length)
  else failure

/-- The character behind a backslash. -/
def escape? : List Char → Option (Char × List Char)
  | 'b' :: rest => some ('\x08', rest)
  | 't' :: rest => some ('\t', rest)
  | 'n' :: rest => some ('\n', rest)
  | 'f' :: rest => some ('\x0c', rest)
  | 'r' :: rest => some ('\r', rest)
  | '"' :: rest => some ('"', rest)
  | '\\' :: rest => some ('\\', rest)
  | 'u' :: rest => codePoint? 4 rest
  | 'U' :: rest => codePoint? 8 rest
  | _ => none

/-- Put a character in front of what is read from the rest. -/
def consing (c : Char) : Option (List Char × List Char) → Option (List Char × List Char) :=
  Option.map fun (others, rest) => (c :: others, rest)

/-- A string with escapes, behind its opening quote. -/
def basic? : Nat → List Char → Option (List Char × List Char)
  | 0, _ => none
  | _ + 1, [] => none
  | _ + 1, '"' :: rest => some ([], rest)
  | fuel + 1, '\\' :: rest => do
      let (c, rest) ← escape? rest
      consing c (basic? fuel rest)
  | fuel + 1, c :: rest => if isPrintable c then consing c (basic? fuel rest) else none

/-- A string without escapes, behind its opening quote. -/
def plain? : List Char → Option (List Char × List Char)
  | [] => none
  | '\'' :: rest => some ([], rest)
  | c :: rest => if isPrintable c then consing c (plain? rest) else none

/-- The text behind spaces, tabs and line breaks. -/
def skipBreaks : List Char → List Char
  | '\n' :: rest => skipBreaks rest
  | '\r' :: '\n' :: rest => skipBreaks rest
  | c :: rest => if isSpace c then skipBreaks rest else c :: rest
  | [] => []

/-- A run of quotes in a string of several lines: three of them close it, and up to
two more belong to its text. -/
def closing? (quote : Char) (chars : List Char) : Option (Option (List Char × List Char)) :=
  let run := (chars.takeWhile (· == quote)).length
  if run < 3 then none
  else if run ≤ 5 then some (some (List.replicate (run - 3) quote, chars.drop run))
  else some none

/-- A string of several lines, behind its opening quotes. -/
def lines? (quote : Char) (escapes : Bool) : Nat → List Char → Option (List Char × List Char)
  | 0, _ => none
  | fuel + 1, chars =>
      match closing? quote chars with
      | some result => result
      | none =>
          match chars with
          | [] => none
          | '\n' :: rest => consing '\n' (lines? quote escapes fuel rest)
          | '\r' :: '\n' :: rest => consing '\n' (lines? quote escapes fuel rest)
          | c :: rest =>
              if escapes ∧ c = '\\' then
                match newline? (skipSpace rest) with
                | some rest => lines? quote escapes fuel (skipBreaks rest)
                | none =>
                    match escape? rest with
                    | some (c, rest) => consing c (lines? quote escapes fuel rest)
                    | none => none
              else if isPrintable c then consing c (lines? quote escapes fuel rest)
              else none

/-- The text behind a line break that follows opening quotes at once. -/
def dropFirstBreak (chars : List Char) : List Char :=
  (newline? chars).getD chars

/-- A string on a single line. -/
def lineString? : List Char → Option (List Char × List Char)
  | '"' :: rest => basic? (rest.length + 1) rest
  | '\'' :: rest => plain? rest
  | _ => none

/-- A string. -/
def string? : List Char → Option (List Char × List Char)
  | '"' :: '"' :: '"' :: rest => lines? '"' true (rest.length + 1) (dropFirstBreak rest)
  | '\'' :: '\'' :: '\'' :: rest =>
      lines? '\'' false (rest.length + 1) (dropFirstBreak rest)
  | chars => lineString? chars

/-! ## Keys -/

/-- How many parts a key may have, and how deeply values may be nested. -/
def maxDepth : Nat :=
  79

/-- Characters of keys without quotes. -/
def isBareKey (c : Char) : Bool :=
  c.isAlphanum || c == '_' || c == '-'

/-- A key without dots. -/
def simpleKey? (chars : List Char) : Option (String × List Char) :=
  match chars.takeWhile isBareKey with
  | [] => (lineString? chars).map fun (key, rest) => (String.ofList key, rest)
  | key => some (String.ofList key, chars.dropWhile isBareKey)

/-- The parts of a dotted key, however many. -/
def parts? : Nat → List Char → Option (List String × List Char)
  | 0, _ => none
  | fuel + 1, chars => do
      let (part, rest) ← simpleKey? (skipSpace chars)
      match skipSpace rest with
      | '.' :: rest =>
          let (others, rest) ← parts? fuel rest
          return (part :: others, rest)
      | rest => return ([part], rest)

/-- A dotted key: the parts before the last one, and the last one. -/
def key? (chars : List Char) : Option ((List String × String) × List Char) := do
  let (path, rest) ← parts? (chars.length + 1) chars
  let key ← path.getLast?
  if path.length ≤ maxDepth then return ((path.dropLast, key), rest) else failure

/-! ## Dates and times -/

/-- The number that exactly two decimal digits stand for, within bounds. -/
def twoDigits? (least most : Nat) : List Char → Option (Nat × List Char)
  | tens :: ones :: rest => do
      let value := valueOf 10 [← hexDigit? tens, ← hexDigit? ones]
      if tens.isDigit ∧ ones.isDigit ∧ least ≤ value ∧ value ≤ most then
        return (value, rest)
      else failure
  | _ => none

/-- The text behind a character that must come first. -/
def expect? (expected : Char) : List Char → Option (List Char)
  | c :: rest => if c = expected then some rest else none
  | [] => none

/-- How many days a month has. -/
def daysIn (year month : Nat) : Nat :=
  if month = 2 then
    if year % 4 = 0 ∧ (year % 100 ≠ 0 ∨ year % 400 = 0) then 29 else 28
  else if month = 4 ∨ month = 6 ∨ month = 9 ∨ month = 11 then 30
  else 31

/-- The text behind a date. -/
def date? (chars : List Char) : Option (List Char) := do
  let (century, rest) ← twoDigits? 0 99 chars
  let (year, rest) ← twoDigits? 0 99 rest
  let (month, rest) ← twoDigits? 1 12 (← expect? '-' rest)
  let (_, rest) ← twoDigits? 1 (daysIn (century * 100 + year) month) (← expect? '-' rest)
  return rest

/-- The text behind the time of a day. -/
def time? (chars : List Char) : Option (List Char) := do
  let (_, rest) ← twoDigits? 0 23 chars
  let (_, rest) ← twoDigits? 0 59 (← expect? ':' rest)
  let (_, rest) ← twoDigits? 0 60 (← expect? ':' rest)
  match rest with
  | '.' :: rest =>
      if (rest.takeWhile Char.isDigit).isEmpty then failure
      else return rest.dropWhile Char.isDigit
  | rest => return rest

/-- Whether a text is empty or the distance of a clock from universal time. -/
def isOffset : List Char → Bool
  | [] | ['z'] | ['Z'] => true
  | sign :: rest =>
      (sign == '+' || sign == '-') &&
        (do
          let (_, rest) ← twoDigits? 0 23 rest
          let (_, rest) ← twoDigits? 0 59 (← expect? ':' rest)
          return rest.isEmpty).getD false

/-- Whether a word is a date with a time. -/
def isDateTime (word : List Char) : Bool :=
  match date? word with
  | some ('T' :: rest) | some ('t' :: rest) => ((time? rest).map isOffset).getD false
  | _ => false

/-- Characters of numbers, dates and times. -/
def isWordChar (c : Char) : Bool :=
  c.isAlphanum || c == '+' || c == '-' || c == '_' || c == '.' || c == ':'

/-- A value that is a single word.  A date may have its time behind a space. -/
def word? (chars : List Char) : Option (Toml × List Char) :=
  let word := chars.takeWhile isWordChar
  let rest := chars.dropWhile isWordChar
  if word = "true".toList then some (.boolean true, rest)
  else if word = "false".toList then some (.boolean false, rest)
  else
    match integer? word with
    | some value => some (.integer value, rest)
    | none =>
        if isFloat word then some (.float, rest)
        else if isDateTime word ∨ time? word = some [] then some (.moment, rest)
        else if date? word = some [] then
          match rest with
          | ' ' :: c :: rest =>
              if c.isDigit then
                match time? ((c :: rest).takeWhile isWordChar) with
                | some offset =>
                    if isOffset offset then some (.moment, (c :: rest).dropWhile isWordChar)
                    else none
                | none => none
              else some (.moment, ' ' :: c :: rest)
          | rest => some (.moment, rest)
        else none

/-! ## Values -/

mutual

/-- A value, in which others may be nested up to a depth. -/
def value? : Nat → Nat → List Char → Option (Toml × List Char)
  | 0, _, _ => none
  | _ + 1, _, [] => none
  | fuel + 1, depth, c :: rest =>
      match c, depth with
      | '[', 0 | '\x7b', 0 => none
      | '[', depth + 1 => elements? fuel depth [] (skipBlank rest)
      | '\x7b', depth + 1 =>
          match skipSpace rest with
          | '\x7d' :: rest => some (.table .inline [], rest)
          | rest => entries? fuel depth [] rest
      | c, _ =>
          if c = '"' ∨ c = '\'' then
            (string? (c :: rest)).map fun (chars, rest) =>
              (.string (String.ofList chars), rest)
          else word? (c :: rest)

/-- The further elements of an array, up to its closing bracket. -/
def elements? : Nat → Nat → List Toml → List Char → Option (Toml × List Char)
  | 0, _, _, _ => none
  | fuel + 1, depth, elements, chars =>
      match chars with
      | ']' :: rest => some (.array false elements, rest)
      | chars => do
          let (element, rest) ← value? fuel depth chars
          match skipBlank rest with
          | ',' :: rest => elements? fuel depth (elements ++ [element]) (skipBlank rest)
          | ']' :: rest => return (.array false (elements ++ [element]), rest)
          | _ => failure

/-- The further entries of an inline table, up to its closing brace. -/
def entries? : Nat → Nat → Entries → List Char → Option (Toml × List Char)
  | 0, _, _, _ => none
  | fuel + 1, depth, entries, chars => do
      let ((path, key), rest) ← key? chars
      let rest ← expect? '=' rest
      let (value, rest) ← value? fuel depth (skipSpace rest)
      let entries ← addValue path key value .header entries
      match skipSpace rest with
      | ',' :: rest => entries? fuel depth entries rest
      | '\x7d' :: rest => return (.table .inline entries, rest)
      | _ => failure

end

/-! ## Documents -/

/-- A document as far as it has been read: its root table, and the path of the table
that the last header opened. -/
structure Document where
  root : Entries
  header : List String

/-- The key of a header, up to its closing bracket. -/
def headerKey? (chars : List Char) : Option ((List String × String) × List Char) := do
  let (key, rest) ← key? chars
  return (key, ← expect? ']' rest)

/-- A line behind its leading spaces: a header, an entry, or nothing. -/
def line? (document : Document) (chars : List Char) : Option (Document × List Char) :=
  match chars with
  | '[' :: '[' :: rest => do
      let ((path, key), rest) ← headerKey? rest
      let rest ← expect? ']' rest
      let root ← updateAt .implied (openElement key) path .header document.root
      return ({ root, header := path ++ [key] }, ← lineEnd? rest)
  | '[' :: rest => do
      let ((path, key), rest) ← headerKey? rest
      let root ← updateAt .implied (openTable key) path .header document.root
      return ({ root, header := path ++ [key] }, ← lineEnd? rest)
  | chars =>
      match lineEnd? chars with
      | some rest => some (document, rest)
      | none => do
          let ((path, key), rest) ← key? chars
          let rest ← expect? '=' rest
          let (value, rest) ← value? (rest.length + 1) maxDepth (skipSpace rest)
          let root ←
            updateAt .implied (addValue path key value) document.header .header
              document.root
          return ({ document with root }, ← lineEnd? rest)

/-- The remaining lines of a document. -/
def lines : Nat → Document → List Char → Option Entries
  | _, document, [] => some document.root
  | 0, _, _ :: _ => none
  | fuel + 1, document, chars => do
      let (document, rest) ← line? document (skipSpace chars)
      lines fuel document rest

/-- The text without a byte order mark. -/
def dropMark : List Char → List Char
  | '\ufeff' :: rest => rest
  | chars => chars

/-- The entries of a document, if the text is one. -/
def parse? (text : String) : Option Entries :=
  let chars := dropMark text.toList
  lines (chars.length + 1) { root := [], header := [] } chars

end GoMend.Toml
