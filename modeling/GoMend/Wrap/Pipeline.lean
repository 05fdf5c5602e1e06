import GoMend.Unit.Locate
import GoMend.Wrap.Wrapper

/-!
# Moving a file into the generated package

A pipeline renames the package of a file, wraps the struct and the constructor that
its patterns find, and tells under which name the file is published.  A file
without such a struct or constructor is renamed only as far as it goes.
-/

namespace GoMend

/-- How files are moved into the package. -/
structure Pipeline where
  package : String
  structures : Matcher
  functions : Matcher
  /-- What the name of a file begins with before it is published. -/
  staging : String
  /-- What the name of a published file begins with instead. -/
  published : String

namespace Pipeline

/-- The pipeline with patterns given by their texts. -/
def ofTexts (compiler : PatternCompiler)
    (package structures functions staging published : String) : Except Fault Pipeline := do
  let structures ← compiler.compile structures
  let functions ← compiler.compile functions
  return { package, structures, functions, staging, published }

/-- Wrap the constructor that the pattern finds, if there is one. -/
def wrapFunction (pipeline : Pipeline) (wrapper : Wrapper) (source : Source) :
    Except Fault (Option Record) × Source :=
  let edit (decl : FuncDecl) : Except Fault Record × FuncDecl :=
    match wrapper.normalizeConstructor decl with
    | .ok normal => (.ok { wrapper, symbol := decl.name.name }, normal)
    | .error fault => (.error fault, decl)
  match source.editFunction? pipeline.functions edit with
  | none => (.ok none, source)
  | some (result, source) => (result.map some, source)

/-- Wrap the struct that the pattern finds, if there is one; tell with what. -/
def wrapStructure (pipeline : Pipeline) (source : Source) :
    Except Fault (Option Wrapper) × Source :=
  let edit (spec : TypeSpec) : Except Fault Wrapper × TypeSpec :=
    let wrapper := Wrapper.select spec
    match wrapper.enrich spec with
    | .ok enriched => (.ok wrapper, enriched)
    | .error fault => (.error fault, spec)
  match source.editStructure? pipeline.structures edit with
  | none => (.ok none, source)
  | some (result, source) => (result.map some, source)

/-- Move a file into the package.  What was edited before a fault stays edited. -/
def transform (pipeline : Pipeline) (source : Source) :
    Except Fault (Option Record) × Source :=
  match pipeline.wrapStructure (source.renamePackage pipeline.package) with
  | (.error fault, source) => (.error fault, source)
  | (.ok none, source) => (.ok none, source)
  | (.ok (some wrapper), source) => pipeline.wrapFunction wrapper source

/-- The name under which a file is published: a name that begins with the staging
mark has it replaced by the published one. -/
def publishedName? (pipeline : Pipeline) (name : String) : Option String :=
  if pipeline.staging.isEmpty then none
  else
    (pipeline.staging.toList.isPrefixOf? name.toList).map fun rest =>
      pipeline.published ++ String.ofList rest

/-- The path under which a file is published. -/
def publishedPath (pipeline : Pipeline) (path : Path) : Path :=
  match path.fileName?.bind pipeline.publishedName? with
  | some name => path.withFileName name
  | none => path

end Pipeline

end GoMend
