import GoMend.Syntax.Layout
import GoMend.Volume.Path
import GoMend.Wrap.Wrapper

/-!
# The lookup table

A generated file that lists, under each wrapper, the constructors that use it.
Names are listed in the order of their bytes and once only, so the text depends on
the set of records alone.
-/

namespace GoMend

/-- Where the lookup table goes: its package and the name of its file. -/
structure Table where
  package : String
  fileName : String
  deriving DecidableEq, Repr

namespace Table

/-- The comment that marks the file as generated. -/
def header : String :=
  "// Code generated by aggsync. DO NOT EDIT."

/-- The variable that holds the table. -/
def variableName : String :=
  "aggMap"

/-- The names of the constructors that use a wrapper, as they are listed. -/
def symbols (wrapper : Wrapper) (records : List Record) : List String :=
  let used := records.filter (·.wrapper = wrapper)
  ((used.map (·.symbol)).mergeSort fun left right => decide (left ≤ right)).eraseReps

/-- The type of the table of one wrapper. -/
def innerType : Expr :=
  .mapType (.ofName "string") (.interfaceType { fields := [], closing := [] })

/-- The type of the whole table. -/
def outerType : Expr :=
  .mapType (.ofName "string") innerType

/-- A literal with one element a line, or none at all. -/
def mapLiteral (type : Expr) (elements : List Expr) : Expr :=
  .composite (some type) elements (!elements.isEmpty)

/-- An element under a quoted key. -/
def entry (key : String) (value : Expr) : Expr :=
  .keyValue (.literal (.ofText key)) value

/-- The part of the table for one wrapper. -/
def category (records : List Record) (wrapper : Wrapper) : Expr :=
  entry wrapper.name
    (mapLiteral innerType
      ((symbols wrapper records).map fun symbol => entry symbol (.ofName symbol)))

/-- The file that holds the table. -/
def file (table : Table) (records : List Record) : File where
  doc := [{ text := header, offset := none }]
  package := .ofName table.package
  decls :=
    [.gen
      { doc := []
        keyword := .vars
        grouped := false
        specs :=
          [.value
            { doc := []
              names := [.ofName variableName]
              type := none
              values := [mapLiteral outerType (Wrapper.all.map (category records))]
              comment := none }]
        offset := none }]
  trailing := []

/-- The text of the file. -/
def render (table : Table) (records : List Record) : String :=
  (table.file records).render

/-- Where the file is written in a directory. -/
def path (table : Table) (dir : Path) : Path :=
  dir.join table.fileName

end Table

end GoMend
