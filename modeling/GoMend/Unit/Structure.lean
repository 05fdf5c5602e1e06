import GoMend.Fault
import GoMend.Syntax.Build

/-!
# Struct declarations

Queries and edits on the fields of a declared struct.  A field line declares one or
several names, or embeds a type; an embedded field is reached by the name of its
type.  Other types than structs have no fields and take none.
-/

namespace GoMend.TypeSpec

/-- The field lines of the struct. -/
def fields (spec : TypeSpec) : List Field :=
  match spec.type with
  | .structType list => list.fields
  | _ => []

/-- Change the field lines of the struct. -/
def mapFields (change : List Field → List Field) (spec : TypeSpec) : TypeSpec :=
  match spec.type with
  | .structType list =>
      { spec with type := .structType { list with fields := change list.fields } }
  | _ => spec

/-- Change the declared name; uses of it elsewhere stay as they are. -/
def rename (name : String) (spec : TypeSpec) : TypeSpec :=
  { spec with name := { spec.name with name } }

/-- The place of the first field line that declares the name. -/
def fieldIndex? (spec : TypeSpec) (name : String) : Option Nat :=
  spec.fields.findIdx? (·.names? name)

/-- Whether a field line declares the name. -/
def hasField (spec : TypeSpec) (name : String) : Bool :=
  spec.fields.any (·.names? name)

/-- Whether an embedded field is reached by the name. -/
def embeds (spec : TypeSpec) (name : String) : Bool :=
  spec.fields.any (·.embeddedName? == some name)

/-- Append a field line. -/
def addField (field : Field) (spec : TypeSpec) : TypeSpec :=
  spec.mapFields (· ++ [field])

/-- Remove every embedded field that is reached by the name. -/
def removeEmbedded (name : String) (spec : TypeSpec) : TypeSpec :=
  spec.mapFields (·.filter (·.embeddedName? != some name))

/-- Remove a name from the first field line that declares it.  A line that declares
no other name goes with it. -/
def dropName (name : String) : List Field → List Field
  | [] => []
  | field :: rest =>
      if field.names? name then
        if field.names.length > 1 then
          { field with names := field.names.filter (·.name != name) } :: rest
        else rest
      else field :: dropName name rest

/-- Remove the field of a name. -/
def removeField (name : String) (spec : TypeSpec) : Except Fault TypeSpec :=
  if spec.hasField name then .ok (spec.mapFields (dropName name))
  else .error (.fieldNotFound spec.name.name name)

end GoMend.TypeSpec
