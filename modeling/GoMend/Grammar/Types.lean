import GoMend.Grammar.Production

/-!
# Types and parameter lists
-/

namespace GoMend.Grammar

open GoMend.Parser

/-- Whether a type may begin with a word of the category, parentheses apart. -/
def startsType : Kind → Bool
  | .identifier | .star | .leftBracket | .mapKw | .chanKw | .funcKw | .structKw
  | .interfaceKw | .arrow => true
  | _ => false

/-- A field that consists of a type. -/
def unnamedField (type : Expr) : Field :=
  { doc := [], names := [], type, tag := none, comment := none }

/-- A field with names in front of its type. -/
def namedField (names : List Ident) (type : Expr) : Field :=
  { doc := [], names, type, tag := none, comment := none }

/-- Group entries that are names, followed by one that has a type behind its name,
into fields.  `pending` holds the names that wait for a type. -/
def groupNamed? : List Ident → List (Expr × Option Expr) → Option (List Field)
  | [], [] => some []
  | _ :: _, [] => none
  | pending, (.ident name, none) :: rest => groupNamed? (pending ++ [name]) rest
  | pending, (.ident name, some type) :: rest =>
      (groupNamed? [] rest).map (namedField (pending ++ [name]) type :: ·)
  | _, _ :: _ => none

/-- The fields that entries make, declaratively: a name waits for a type, and a type takes the
names that wait in front of it. -/
inductive Groups : List Ident → List (Expr × Option Expr) → List Field → Prop where
  | nil : Groups [] [] []
  | wait {pending : List Ident} {rest : List (Expr × Option Expr)} {fields : List Field}
      (name : Ident) :
      Groups (pending ++ [name]) rest fields → Groups pending ((.ident name, none) :: rest) fields
  | take {rest : List (Expr × Option Expr)} {fields : List Field} (pending : List Ident)
      (name : Ident) (type : Expr) :
      Groups [] rest fields →
        Groups pending ((.ident name, some type) :: rest)
          (namedField (pending ++ [name]) type :: fields)

theorem groups_of_groupNamed? {pending : List Ident} {entries : List (Expr × Option Expr)}
    {fields : List Field} (grouped : groupNamed? pending entries = some fields) :
    Groups pending entries fields := by
  fun_induction groupNamed? pending entries generalizing fields with
  | case1 =>
      cases grouped
      exact .nil
  | case2 => cases grouped
  | case3 pending name rest ih => exact .wait name (ih grouped)
  | case4 pending name type rest ih =>
      obtain ⟨others, othersGrouped, rfl⟩ := Option.map_eq_some_iff.1 grouped
      exact .take pending name type (ih othersGrouped)
  | case5 => cases grouped

/-- The fields that the entries of a parameter list stand for.  If one entry has a
type behind its name, all entries are names. -/
def groupParams? (entries : List (Expr × Option Expr)) : Option (List Field) :=
  if entries.any (·.2.isSome) then groupNamed? [] entries
  else some (entries.map fun entry => unnamedField entry.1)

variable (below : Reader)

/-- A name, perhaps of another package. -/
def typeName : Parser Expr := do
  let name ← ident
  if ← eat .dot then return .selector (.ident name) (← ident)
  else return .ident name

/-- A list of names. -/
def identList : Parser (List Ident) := do
  let first ← ident
  return first :: (← below .identTail)

/-- Further names, each behind a comma. -/
def identTail : Parser (List Ident) := do
  if ← eat .comma then
    let name ← ident
    return name :: (← below .identTail)
  else return []

/-- A parameter type: the last one may stand for any number of arguments. -/
def paramType : Parser Expr := do
  if ← eat .ellipsis then return .variadic (← below .type)
  else below .type

/-- The entries of a parameter list. -/
def params : Parser (List (Expr × Option Expr)) := do
  if ← atAny [.rightParen, .endOfFile] then return []
  else
    let first ← paramType below
    let entry ←
      if ← atAny [.comma, .rightParen] then pure (first, none)
      else pure (first, some (← paramType below))
    if ← eat .comma then return entry :: (← below .params)
    else return [entry]

/-- A parameter list in parentheses. -/
def parameters : Parser FieldList := do
  let _ ← expect .leftParen
  let saved ← level
  setLevel 0
  let entries ← below .params
  setLevel saved
  let close ← expect .rightParen
  match groupParams? entries with
  | some fields => return { fields, closing := [] }
  | none => failAt .mixedParameters close.offset

/-- The results of a function: a list in parentheses or a single type. -/
def results : Parser (Option FieldList) := do
  if ← at? .leftParen then return some (← parameters below)
  else if startsType (← peek) then
    return some { fields := [unnamedField (← below .type)], closing := [] }
  else return none

/-- The parameters and results of a function. -/
def signature : Parser Signature := do
  let params ← parameters below
  return { params, results := ← results below }

/-- The brackets of an array or slice type.  If the length is faulty, a missing
closing bracket is the fault that is told. -/
def arrayLength : Parser ArrayLength := do
  let _ ← expect .leftBracket
  if ← eat .rightBracket then return .slice
  else if ← eat .ellipsis then
    let _ ← expect .rightBracket
    return .inferred
  else
    let size ← outcome (nested (below (.binary 1)))
    let _ ← expect .rightBracket
    match size with
    | .ok size => return .fixed size
    | .error error => throw error

/-- The string behind a struct field. -/
def fieldTag : Parser (Option Literal) := do
  if ← at? .string then return some (toLiteral .string (← bump))
  else return none

/-- The names and the type of a struct field; an embedded field is a type name or a
pointer to one. -/
def structFieldHead : Parser (List Ident × Expr) := do
  let first ← peek
  let second ← peekSecond
  if first = .star then
    let _ ← bump
    return ([], .star (← typeName))
  else if first = .identifier ∧ second ∈ [Kind.dot, .string, .semicolon, .rightBrace] then
    return ([], ← typeName)
  else
    let names ← identList below
    return (names, ← below .type)

/-- The fields of a struct type. -/
def structFields : Parser (List Field) := do
  if ← atAny [.rightBrace, .endOfFile] then return []
  else
    let doc ← takeDoc
    let (names, type) ← structFieldHead below
    let tag ← fieldTag
    let comment ← takeTrailing
    expectSemicolon
    return { doc, names, type, tag, comment } :: (← below .structFields)

/-- The name and the type of an interface member: a method, or a type of which all
methods are members. -/
def interfaceMemberHead : Parser (List Ident × Expr) := do
  if (← peek) = .identifier ∧ (← peekSecond) = .leftParen then
    let name ← ident
    return ([name], .funcType (← signature below))
  else return ([], ← below .type)

/-- The members of an interface type. -/
def interfaceMembers : Parser (List Field) := do
  if ← atAny [.rightBrace, .endOfFile] then return []
  else
    let doc ← takeDoc
    let (names, type) ← interfaceMemberHead below
    let comment ← takeTrailing
    expectSemicolon
    return { doc, names, type, tag := none, comment } :: (← below .interfaceMembers)

/-- The braces of a struct or interface type. -/
def memberList (members : Parser (List Field)) : Parser FieldList := do
  let _ ← expect .leftBrace
  let fields ← members
  let closing ← takeDoc
  let _ ← expect .rightBrace
  return { fields, closing }

/-- A type. -/
def type : Parser Expr := do
  match ← peek with
  | .identifier => typeName
  | .star =>
      let _ ← bump
      return .star (← below .type)
  | .leftBracket =>
      let length ← arrayLength below
      return .arrayType length (← below .type)
  | .mapKw =>
      let _ ← bump
      let _ ← expect .leftBracket
      let key ← below .type
      let _ ← expect .rightBracket
      return .mapType key (← below .type)
  | .chanKw =>
      let _ ← bump
      let direction := if ← eat .arrow then ChanDirection.send else .both
      return .chanType direction (← below .type)
  | .arrow =>
      let _ ← bump
      let _ ← expect .chanKw
      return .chanType .receive (← below .type)
  | .funcKw =>
      let _ ← bump
      return .funcType (← signature below)
  | .structKw =>
      let _ ← bump
      return .structType (← memberList (below .structFields))
  | .interfaceKw =>
      let _ ← bump
      return .interfaceType (← memberList (below .interfaceMembers))
  | .leftParen =>
      let _ ← bump
      let inner ← below .type
      let _ ← expect .rightParen
      return .paren inner
  | kind => fail (.noType kind)

end GoMend.Grammar
