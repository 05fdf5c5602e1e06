import GoMend.Grammar.Statements

/-!
# Declarations
-/

namespace GoMend.Grammar

open GoMend.Parser

variable (below : Reader)

/-- The name of an import: an identifier or a dot. -/
def importName : Parser (Option Ident) := do
  match ← peek with
  | .identifier => return some (← ident)
  | .dot =>
      let dot ← bump
      return some { name := ".", offset := some dot.offset }
  | _ => return none

/-- An entry of an import declaration. -/
def importSpec (doc : List Comment) : Parser ImportSpec := do
  let name ← importName
  let path ← expect .string
  return { doc, name, path := toLiteral .string path, comment := ← takeTrailing }

/-- An entry of a constant or variable declaration. -/
def valueSpec (doc : List Comment) : Parser ValueSpec := do
  let names ← identList below
  let type ←
    if ← atAny [.eq, .semicolon, .rightParen] then pure none
    else pure (some (← below .type))
  let values ←
    if ← eat .eq then exprList below
    else pure []
  return { doc, names, type, values, comment := ← takeTrailing }

/-- An entry of a type declaration. -/
def typeSpec (doc : List Comment) : Parser TypeSpec := do
  let name ← ident
  let isAlias ← eat .eq
  let type ← below .type
  return { doc, name, isAlias, type, comment := ← takeTrailing }

/-- An entry of a declaration. -/
def spec (keyword : DeclKeyword) (doc : List Comment) : Parser Spec := do
  match keyword with
  | .imports => return .imported (← importSpec doc)
  | .consts | .vars => return .value (← valueSpec below doc)
  | .types => return .type (← typeSpec below doc)

/-- The entries of a grouped declaration. -/
def specs (keyword : DeclKeyword) : Parser (List Spec) := do
  if ← atAny [.rightParen, .endOfFile] then return []
  else
    let doc ← takeDoc
    let first ← spec below keyword doc
    expectSemicolon
    return first :: (← below (.specs keyword))

/-- A declaration, from its keyword on. -/
def genDecl (keyword : DeclKeyword) (doc : List Comment) : Parser GenDecl := do
  let offset := (← bump).offset
  if ← eat .leftParen then
    let specs ← below (.specs keyword)
    let _ ← expect .rightParen
    return { doc, keyword, grouped := true, specs, offset := some offset }
  else
    let only ← spec below keyword []
    return { doc, keyword, grouped := false, specs := [only], offset := some offset }

/-- A function or method. -/
def funcDecl (doc : List Comment) : Parser FuncDecl := do
  let _ ← expect .funcKw
  let receiver ←
    if ← at? .leftParen then pure (some (← parameters below))
    else pure none
  let name ← ident
  let signature ← signature below
  let body ←
    if ← at? .leftBrace then pure (some (← functionBody below))
    else pure none
  return { doc, receiver, name, signature, body }

/-- A statement without its comments. -/
def stmt : Parser StmtKind := do
  match ← peek with
  | .constKw => return .decl (← genDecl below .consts [])
  | .varKw => return .decl (← genDecl below .vars [])
  | .typeKw => return .decl (← genDecl below .types [])
  | .goKw =>
      let _ ← bump
      return .go (← expr below)
  | .deferKw =>
      let _ ← bump
      return .defer (← expr below)
  | .returnKw =>
      let _ ← bump
      if ← atAny [.semicolon, .rightBrace] then return .ret []
      else return .ret (← exprList below)
  | .breakKw | .continueKw | .gotoKw =>
      let keyword := branchKeyword (← bump).kind
      if ← at? .identifier then return .branch keyword (some (← ident))
      else return .branch keyword none
  | .fallthroughKw =>
      let _ ← bump
      return .branch .fall none
  | .leftBrace => return .block (← below .block)
  | .ifKw => below .conditional
  | .switchKw => switch below
  | .selectKw => select below
  | .forKw => loop below
  | kind =>
      if kind = .identifier ∧ (← peekSecond) = .colon then
        let label ← ident
        let _ ← bump
        if ← at? .rightBrace then return .labeled label (.bare .empty)
        else return .labeled label (.bare (← below .stmt))
      else simple below

/-- The import declarations at the head of a file. -/
def imports : Parser (List Decl) := do
  if ← at? .importKw then
    let doc ← takeDoc
    let first ← genDecl below .imports doc
    expectSemicolon
    return .gen first :: (← below .imports)
  else return []

/-- A declaration behind the imports. -/
def decl (doc : List Comment) : Parser Decl := do
  match ← peek with
  | .constKw => return .gen (← genDecl below .consts doc)
  | .varKw => return .gen (← genDecl below .vars doc)
  | .typeKw => return .gen (← genDecl below .types doc)
  | .funcKw => return .func (← funcDecl below doc)
  | .importKw => fail .lateImport
  | kind => fail (.strayStatement kind)

/-- The declarations behind the imports, up to the end of the text. -/
def decls : Parser (List Decl) := do
  if ← at? .endOfFile then return []
  else
    let doc ← takeDoc
    let first ← decl below doc
    expectSemicolon
    return first :: (← below .decls)

/-- A file. -/
def file : Parser File := do
  let doc ← takeDoc
  let _ ← expect .packageKw
  let package ← ident
  expectSemicolon
  let imports ← below .imports
  let decls ← below .decls
  return { doc, package, decls := imports ++ decls, trailing := ← takeRemaining }

end GoMend.Grammar
