import GoMend.Fault
import GoMend.Grammar.Reading
import GoMend.Syntax.Build
import GoMend.Syntax.Visit
import GoMend.Syntax.Walk
import GoMend.Unit.Positions

/-!
# Source units

A source unit is a file that was read under a path, with the positions of the text
it was read from.  Edits change the tree; positions keep their meaning in the text
that was read, so an edit does not move the target of the next one.
-/

namespace GoMend

/-- A file that was read under a path. -/
structure Source where
  path : Path
  file : File
  index : PositionIndex

namespace Source

/-- Read a text under a path. -/
def parse (path : Path) (text : String) : Except Fault Source :=
  let index := PositionIndex.ofText text
  match File.parse text with
  | .ok file => .ok { path, file, index }
  | .error error =>
      .error (.unreadableSource path (index.lines.position error.offset) error.fault)

/-- The text of the edited file. -/
def render (source : Source) : String :=
  source.file.render

/-- The name in the package clause. -/
def packageName (source : Source) : String :=
  source.file.package.name

/-- Change the name in the package clause. -/
def renamePackage (name : String) (source : Source) : Source :=
  { source with
    file := { source.file with package := { source.file.package with name } } }

/-- Whether a path is imported, under whatever name. -/
def hasImport (source : Source) (path : String) : Bool :=
  source.file.imports.any (·.pathValue == path)

/-- Add an entry to the first import declaration, if there is one. -/
def extendFirstImport? (spec : ImportSpec) : List Decl → Option (List Decl)
  | [] => none
  | .gen decl :: rest =>
      if decl.keyword = .imports then
        some (.gen { decl with specs := decl.specs ++ [.imported spec], grouped := true } ::
          rest)
      else (extendFirstImport? spec rest).map (.gen decl :: ·)
  | .func decl :: rest => (extendFirstImport? spec rest).map (.func decl :: ·)

/-- Import a path unless it is imported already; tell whether an entry was added.
The first import declaration takes the entry, or a new one before all others. -/
def addImport (name : Option String) (path : String) (source : Source) :
    Bool × Source :=
  if source.hasImport path then (false, source)
  else
    let spec := ImportSpec.ofPath name path
    let decls :=
      (extendFirstImport? spec source.file.decls).getD
        (.gen (.importing [spec]) :: source.file.decls)
    (true, { source with file := { source.file with decls } })

/-- The name that begins exactly at a position of the text that was read. -/
def identAt? (source : Source) (position : Position) : Option Ident :=
  (source.index.identOffset? position).bind fun offset =>
    source.file.idents.find? (·.offset == some offset)

/-- A name with a package in front of it, if it begins at an offset. -/
def qualifyAt? (package : String) (offset : Nat) (ident : Ident) : Option Ident :=
  if ident.offset = some offset then
    some { ident with name := Ident.qualify package ident.name }
  else none

/-- Put a package in front of the name at a position, the first one if there are
several; tell which name it was. -/
def qualify (position : Position) (package : String) (source : Source) :
    Option (String × Source) := do
  let offset ← source.index.identOffset? position
  let ident ← source.identAt? position
  return (ident.name,
    { source with file := source.file.changeFirst (qualifyAt? package offset) })

end Source

end GoMend
