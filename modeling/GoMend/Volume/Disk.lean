import GoMend.Unit.Source
import GoMend.Volume.Resolve

/-!
# Working on a volume

Actions on a volume either succeed or stop with a fault; what was changed before the
fault stays changed.  A refusal of the volume is reported together with what was
being done and to which path.
-/

namespace GoMend

/-- An action on a volume. -/
abbrev Disk := EStateM Fault Volume

namespace Disk

/-- Ask the volume. -/
def ask {α : Type} (action : FileAction) (path : Path)
    (question : Volume → Except FileFault α) : Disk α := do
  match question (← get) with
  | .ok answer => return answer
  | .error fault => throw (.fileSystem action path fault)

/-- Change the volume. -/
def change (action : FileAction) (path : Path)
    (step : Volume → Except FileFault Volume) : Disk Unit := do
  set (← ask action path step)

/-- The result of a computation that cannot touch the volume. -/
def ofExcept {α : Type} : Except Fault α → Disk α
  | .ok value => pure value
  | .error fault => throw fault

/-- The text of a file. -/
def readText (path : Path) : Disk String :=
  ask .open path (·.textAt path)

/-- Write a text to a file. -/
def writeText (path : Path) (text : String) : Disk Unit :=
  change .write path (Volume.writeFile path (.text text))

/-- Remove a file. -/
def remove (path : Path) : Disk Unit :=
  change .remove path (Volume.removeFile path)

/-- Copy a file. -/
def copy (source target : Path) : Disk Unit :=
  change .copy source (Volume.copyFile source target)

/-- Make a directory and those above it, as far as they are missing. -/
def makeDirectories (dir : Path) : Disk Unit := fun volume =>
  match Volume.makeDirectories dir volume with
  | .ok _ volume => .ok () volume
  | .error fault volume => .error (.fileSystem .createDirectory dir fault) volume

/-- Remove a directory with all that it holds, unless nothing is there. -/
def removeTree (dir : Path) : Disk Unit := do
  if (← get).holds dir then
    change .remove dir (Volume.clearDirectory dir)
    change .remove dir (Volume.dropDirectory dir)

/-- The files directly in a directory, in the order of their names. -/
def files (dir : Path) : Disk (List Path) := do
  let names ← ask .readDirectory dir (·.filesIn dir)
  return names.map dir.join

end Disk

namespace Source

/-- Read the file at a path. -/
def load (path : Path) : Disk Source := do
  Disk.ofExcept (Source.parse path (← Disk.readText path))

/-- What the names of source files end in, behind a dot. -/
def extension : String :=
  "go"

/-- The source files directly in a directory, in the order of their names. -/
def list (dir : Path) : Disk (List Path) := do
  return (← Disk.files dir).filter (·.extension? == some extension)

/-- Write the edited file to a path. -/
def saveTo (path : Path) (source : Source) : Disk Unit :=
  Disk.writeText path source.render

/-- Write the edited file to the path it was read from. -/
def save (source : Source) : Disk Unit :=
  source.saveTo source.path

end Source

end GoMend
