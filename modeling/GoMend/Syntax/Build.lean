import GoMend.Syntax.Layout
import GoMend.Text.Identifier
import GoMend.Text.Quoted

/-!
# Building nodes

Nodes that no text was read for.  They carry no offsets until the file is written
and read again.
-/

namespace GoMend

namespace Ident

/-- Whether a text is a single name by the rules of the Unicode standard. -/
def isValid (name : String) : Bool :=
  match name.toList with
  | [] => false
  | first :: rest =>
      (first == '_' || Text.isIdentifierStart first) &&
        rest.all Text.isIdentifierContinue

/-- A name that stands nowhere yet. -/
def ofName (name : String) : Ident :=
  { name, offset := none }

/-- The name of a package member as one occurrence. -/
def qualify (package name : String) : String :=
  package ++ "." ++ name

end Ident

namespace Literal

/-- A string literal that stands for the text. -/
def ofText (text : String) : Literal :=
  { kind := .string, text := Text.quote text, offset := none }

end Literal

namespace Expr

/-- A plain name, or the selection of a package member if the name has a dot. -/
def ofName (name : String) : Expr :=
  let chars := name.toList
  let package := chars.takeWhile (· != '.')
  match chars.dropWhile (· != '.') with
  | [] => .ident (.ofName name)
  | _ :: member =>
      .selector (.ident (.ofName (String.ofList package)))
        (.ofName (String.ofList member))

/-- A call of a named function with names as arguments. -/
def callOf (function : String) (arguments : List String) : Expr :=
  .call (.ofName function) (arguments.map .ofName) false

end Expr

namespace Stmt

/-- An assignment to a named target. -/
def assignTo (target : String) (op : AssignOp) (value : Expr) : Stmt :=
  .bare (.assign [.ofName target] op [value])

/-- A return statement. -/
def returning (results : List Expr) : Stmt :=
  .bare (.ret results)

end Stmt

namespace Field

/-- A struct field with one name. -/
def named (name : String) (type : Expr) : Field :=
  { doc := [], names := [.ofName name], type, tag := none, comment := none }

/-- An embedded struct field. -/
def embedded (type : Expr) : Field :=
  { doc := [], names := [], type, tag := none, comment := none }

end Field

namespace ImportSpec

/-- An import of a path, under another name unless that is absent or empty. -/
def ofPath (name : Option String) (path : String) : ImportSpec :=
  { doc := []
    name := (name.filter (!·.isEmpty)).map .ofName
    path := .ofText path
    comment := none }

end ImportSpec

namespace GenDecl

/-- An import declaration in parentheses. -/
def importing (specs : List ImportSpec) : GenDecl :=
  { doc := []
    keyword := .imports
    grouped := true
    specs := specs.map .imported
    offset := none }

end GenDecl

end GoMend
