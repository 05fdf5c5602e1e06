/-!
# Volumes

A volume is a tree of directories and files, held as a finite map from locations to
what stands there.  A location lists the names on the way from the root, which is
always a directory.  There are no links: no two locations lead to one file, so what is
written at one of them changes nothing at another.
-/

namespace GoMend

/-- The names on the way from the root. -/
abbrev Location := List String

/-- What a file holds: a text, or bytes that are none. -/
inductive Content where
  | text (text : String)
  | binary (bytes : List Nat)
  deriving DecidableEq, Repr

/-- What stands at a location. -/
inductive Node where
  | directory
  | file (content : Content)
  deriving DecidableEq, Repr

namespace Node

/-- Whether the node is a file. -/
def isFile : Node → Bool
  | .file _ => true
  | .directory => false

end Node

/-- A tree of directories and files, and the location that relative paths start
from. -/
structure Volume where
  workDir : Location
  entries : List (Location × Node)
  deriving DecidableEq, Repr

namespace Volume

/-- What stands at a location. -/
def at? (volume : Volume) (location : Location) : Option Node :=
  if location = [] then some .directory
  else (volume.entries.find? (·.1 = location)).map (·.2)

/-- Whether a location holds a directory. -/
def isDirectory (volume : Volume) (location : Location) : Bool :=
  volume.at? location == some .directory

/-- Put a node at a location, in the place of what stands there. -/
def put (location : Location) (node : Node) (volume : Volume) : Volume :=
  if volume.entries.any (·.1 = location) then
    { volume with
      entries := volume.entries.map fun entry =>
        if entry.1 = location then (location, node) else entry }
  else { volume with entries := volume.entries ++ [(location, node)] }

/-- Take away what stands at a location. -/
def erase (location : Location) (volume : Volume) : Volume :=
  { volume with entries := volume.entries.filter (·.1 ≠ location) }

/-- Take away all that stands below a location. -/
def eraseBelow (location : Location) (volume : Volume) : Volume :=
  { volume with
    entries := volume.entries.filter fun entry =>
      !(location.isPrefixOf entry.1 && entry.1 ≠ location) }

/-- The name of an entry that is a file directly in a directory. -/
def fileIn? (dir : Location) (entry : Location × Node) : Option String :=
  if entry.1.dropLast = dir ∧ entry.2.isFile then entry.1.getLast? else none

/-- The names of the files directly in a directory, in the order of their bytes. -/
def fileNames (volume : Volume) (dir : Location) : List String :=
  (volume.entries.filterMap (fileIn? dir)).mergeSort fun left right =>
    decide (left ≤ right)

end Volume

end GoMend
