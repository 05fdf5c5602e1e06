import GoMend.Pattern.Compiler
import GoMend.Syntax.Walk
import GoMend.Unit.Source
import GoMend.Unit.Structure

/-!
# Locating declarations by name

A struct or function is addressed by a pattern for its name, and of several that
match the last one in document order is meant.  Among the entries of one type
declaration it is the first matching struct.  An edit takes what was located, hands
out an answer, and puts the edited declaration in its place.
-/

namespace GoMend

universe u

namespace GenDecl

/-- The first struct of a declaration whose name matches. -/
def structure? (pattern : Matcher) (decl : GenDecl) : Option TypeSpec :=
  decl.specs.findSome? fun
    | .type spec =>
        if spec.isStruct && pattern.occursIn spec.name.name then some spec else none
    | _ => none

end GenDecl

namespace FuncDecl

/-- Whether the name matches. -/
def matchesName (pattern : Matcher) (decl : FuncDecl) : Bool :=
  pattern.occursIn decl.name.name

end FuncDecl

namespace File

/-- The last struct whose name matches. -/
def structure? (pattern : Matcher) (file : File) : Option TypeSpec :=
  (file.typeDecls.filterMap (·.structure? pattern)).getLast?

/-- Edit the type entry whose name stands at the offset. -/
def editTypeAt (offset : Option Nat) (edit : TypeSpec → TypeSpec) (file : File) : File :=
  file.mapTypes fun spec => if spec.name.offset = offset then some (edit spec) else none

/-- Edit the last struct whose name matches. -/
def editStructure? {α : Type u} (pattern : Matcher) (edit : TypeSpec → α × TypeSpec)
    (file : File) : Option (α × File) :=
  (file.structure? pattern).map fun spec =>
    ((edit spec).1, file.editTypeAt spec.name.offset fun spec => (edit spec).2)

/-- The last function or method whose name matches. -/
def function? (pattern : Matcher) (file : File) : Option FuncDecl :=
  (file.funcDecls.filter (·.matchesName pattern)).getLast?

/-- Edit the last function among declarations whose name matches. -/
def editLastFunction? {α : Type u} (pattern : Matcher) (edit : FuncDecl → α × FuncDecl) :
    List Decl → Option (α × List Decl)
  | [] => none
  | decl :: rest =>
      match editLastFunction? pattern edit rest with
      | some (result, rest) => some (result, decl :: rest)
      | none =>
          match decl with
          | .gen _ => none
          | .func decl =>
              if decl.matchesName pattern then
                let (result, edited) := edit decl
                some (result, .func edited :: rest)
              else none

/-- Edit the last function or method whose name matches. -/
def editFunction? {α : Type u} (pattern : Matcher) (edit : FuncDecl → α × FuncDecl)
    (file : File) : Option (α × File) :=
  (editLastFunction? pattern edit file.decls).map fun (result, decls) =>
    (result, { file with decls })

end File

namespace Source

/-- Edit the last struct whose name matches. -/
def editStructure? {α : Type u} (pattern : Matcher) (edit : TypeSpec → α × TypeSpec)
    (source : Source) : Option (α × Source) :=
  (source.file.editStructure? pattern edit).map fun (result, file) =>
    (result, { source with file })

/-- Edit the last function or method whose name matches. -/
def editFunction? {α : Type u} (pattern : Matcher) (edit : FuncDecl → α × FuncDecl)
    (source : Source) : Option (α × Source) :=
  (source.file.editFunction? pattern edit).map fun (result, file) =>
    (result, { source with file })

end Source

end GoMend
