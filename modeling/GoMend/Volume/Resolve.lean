import GoMend.Fault
import GoMend.Volume.Basic

/-!
# Resolving paths

A path is resolved step by step, and every step but the last has to lead to a
directory.  Unlike the order of paths, which looks at components, resolution looks
at each part of the spelling: a dot or a slash behind a file is a fault.  Names and
paths must not be too long, nor hold a zero character.
-/

namespace GoMend.Volume

/-- Demand a directory at a location. -/
def demandDirectory (volume : Volume) (location : Location) : Except FileFault Unit :=
  match volume.at? location with
  | some .directory => .ok ()
  | some (.file _) => .error .notDirectory
  | none => .error .notFound

/-- How many bytes a name may have. -/
def maxNameSize : Nat :=
  255

/-- How many bytes a path may have. -/
def maxPathSize : Nat :=
  4095

/-- Follow the parts of a spelling from a location. -/
def walk (volume : Volume) (location : Location) : List String → Except FileFault Location
  | [] => .ok location
  | part :: rest => do
      volume.demandDirectory location
      if part = "" ∨ part = "." then volume.walk location rest
      else if part = ".." then volume.walk location.dropLast rest
      else if maxNameSize < part.utf8ByteSize then throw .invalidFileName
      else volume.walk (location ++ [part]) rest

/-- Where the spelling of a path starts from, and its parts. -/
def route (volume : Volume) (path : Path) : Except FileFault (Location × List String) :=
  if path.text.toList.contains '\x00' then .error .invalidInput
  else if path.text = "" then .error .notFound
  else if maxPathSize < path.text.utf8ByteSize then .error .invalidFileName
  else if path.isAbsolute then .ok ([], path.segments.tail)
  else .ok (volume.workDir, path.segments)

/-- The location that a path leads to.  Something need not stand there, unless the
path ends in a slash or a dot. -/
def locate (volume : Volume) (path : Path) : Except FileFault Location := do
  let (start, parts) ← volume.route path
  volume.walk start parts

/-- What stands where a path leads to. -/
def lookup (volume : Volume) (path : Path) : Except FileFault (Location × Node) := do
  let location ← volume.locate path
  match volume.at? location with
  | some node => return (location, node)
  | none => throw .notFound

/-- Whether a path leads to something. -/
def holds (volume : Volume) (path : Path) : Bool :=
  (volume.lookup path).isOk

/-- Whether a path leads to a directory. -/
def leadsToDirectory (volume : Volume) (path : Path) : Bool :=
  match volume.lookup path with
  | .ok (_, .directory) => true
  | _ => false

/-- Where a new entry of the path's last name goes.  Trailing slashes are passed
over; a path that ends in a dot or two leads to a directory that exists. -/
def locateNew (volume : Volume) (path : Path) : Except FileFault Location := do
  let (start, parts) ← volume.route path
  volume.walk start (parts.reverse.dropWhile (· == "")).reverse

/-- Whether the spelling of a path ends in a slash. -/
def endsInSlash (path : Path) : Bool :=
  path.text.toList.getLast? == some '/'

/-! ## Reading and changing -/

/-- The content of a file. -/
def contentAt (volume : Volume) (path : Path) : Except FileFault Content := do
  match ← volume.lookup path with
  | (_, .file content) => return content
  | (_, .directory) => throw .isDirectory

/-- The text of a file. -/
def textAt (volume : Volume) (path : Path) : Except FileFault String := do
  match ← volume.contentAt path with
  | .text text => return text
  | .binary _ => throw .invalidData

/-- Write a file; the directory it goes to has to exist. -/
def writeFile (path : Path) (content : Content) (volume : Volume) :
    Except FileFault Volume := do
  let location ← volume.locateNew path
  if endsInSlash path ∨ volume.isDirectory location then throw .isDirectory
  else return volume.put location (.file content)

/-- Remove a file. -/
def removeFile (path : Path) (volume : Volume) : Except FileFault Volume := do
  match ← volume.lookup path with
  | (location, .file _) => return volume.erase location
  | (_, .directory) => throw .isDirectory

/-- Copy a file.  The copy is emptied before it is filled, so a file that is copied
onto itself ends up empty. -/
def copyFile (source target : Path) (volume : Volume) : Except FileFault Volume := do
  match ← volume.lookup source with
  | (_, .directory) => throw .invalidInput
  | (_, .file _) =>
      let emptied ← volume.writeFile target (.text "")
      let content ← emptied.contentAt source
      emptied.writeFile target content

/-- Make a directory in one that exists. -/
def makeDirectory (path : Path) (volume : Volume) : Except FileFault Volume := do
  let location ← volume.locateNew path
  if (volume.at? location).isSome then throw .alreadyExists
  else return volume.put location .directory

/-- Make a directory unless it exists. -/
def ensureDirectory (path : Path) (volume : Volume) : Except FileFault Volume :=
  match volume.makeDirectory path with
  | .error .alreadyExists =>
      if volume.leadsToDirectory path then .ok volume else .error .alreadyExists
  | result => result

/-- Make a directory unless it exists, as an action. -/
def ensure (path : Path) : EStateM FileFault Volume Unit := fun volume =>
  match volume.ensureDirectory path with
  | .ok volume => .ok () volume
  | .error fault => .error fault volume

/-- Make the first of several directories, each of which lies in the next one, as far
as they are missing.  Those made before a fault stay. -/
def makeAll : List Path → EStateM FileFault Volume Unit
  | [] => pure ()
  | path :: outer =>
      tryCatch (ensure path) fun
        | .notFound => do
            makeAll outer
            ensure path
        | fault => throw fault

/-- Make a directory and those above it, as far as they are missing. -/
def makeDirectories (path : Path) : EStateM FileFault Volume Unit :=
  makeAll (path.ancestors.filter fun path => path.text ≠ "" && path.parent?.isSome)

/-- Take away all that a directory holds. -/
def clearDirectory (path : Path) (volume : Volume) : Except FileFault Volume := do
  match ← volume.lookup path with
  | (_, .file _) => throw .notDirectory
  | (location, .directory) => return volume.eraseBelow location

/-- Remove a directory that holds nothing.  Under the name of a dot or two a
directory cannot be removed. -/
def dropDirectory (path : Path) (volume : Volume) : Except FileFault Volume := do
  match (path.segments.filter (· ≠ "")).getLast? with
  | some "." => throw .invalidInput
  | some ".." => throw .directoryNotEmpty
  | _ =>
      let (location, _) ← volume.lookup path
      return volume.erase location

/-- The names of the files directly in a directory.  A file holds none. -/
def filesIn (volume : Volume) (path : Path) : Except FileFault (List String) := do
  match ← volume.lookup path with
  | (_, .file _) => return []
  | (location, .directory) => return volume.fileNames location

end GoMend.Volume
