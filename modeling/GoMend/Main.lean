import GoMend.Command.Line

/-!
# The command

The command works on a volume that is filled from the file system with the
directories of the run, and carries the changes of the volume back.
-/

namespace GoMend.Main

/-- The location that a path leads to from the working directory. -/
def locationOf (workDir : Location) (path : Path) : Location :=
  ((path.normalized? (.root :: workDir.map .named)).getD []).filterMap fun
    | .named name => some name
    | _ => none

/-- The spelling of a location. -/
def spelling (location : Location) : String :=
  "/" ++ String.intercalate "/" location

/-- The content of a file with the given bytes. -/
def contentOf (bytes : ByteArray) : Content :=
  match String.fromUTF8? bytes with
  | some text => .text text
  | none => .binary (bytes.toList.map UInt8.toNat)

/-- The bytes of a content. -/
def bytesOf : Content → ByteArray
  | .text text => text.toUTF8
  | .binary bytes => ⟨(bytes.map UInt8.ofNat).toArray⟩

/-- Add the directories above a location to a volume. -/
def addAbove (location : Location) (volume : Volume) : Volume :=
  ((List.range location.length).drop 1).foldl
    (fun volume depth => volume.put (location.take depth) .directory) volume

/-- Add what stands at a location of the file system to a volume. -/
partial def addTree (location : Location) (volume : Volume) : IO Volume := do
  let place := (← IO.currentDir) / spelling location
  if !(← place.pathExists) then return volume
  let volume := addAbove location volume
  if ← place.isDir then
    let mut volume := volume.put location .directory
    for entry in ← place.readDir do
      volume ← addTree (location ++ [entry.fileName]) volume
    return volume
  else
    return volume.put location (.file (contentOf (← IO.FS.readBinFile place)))

/-- Carry a node of a volume to the file system. -/
def carry (location : Location) (node : Node) : IO Unit := do
  match node with
  | .directory => IO.FS.createDirAll (spelling location)
  | .file content => IO.FS.writeBinFile (spelling location) (bytesOf content)

/-- Carry the changes of a volume to the file system. -/
def carryChanges (before after : Volume) : IO Unit := do
  let gone := before.entries.filter fun entry => (after.at? entry.1).isNone
  for (location, node) in gone.reverse do
    if node.isFile then IO.FS.removeFile (spelling location)
    else IO.FS.removeDir (spelling location)
  for (location, node) in after.entries do
    if before.at? location ≠ some node then carry location node

/-- The variables of the environment that are set. -/
def environment : IO (List (String × String)) := do
  let names := LogFilter.environmentName :: OptionName.all.map (·.environmentName)
  let values ← names.mapM fun name => do return (name, ← IO.getEnv name)
  return values.filterMap fun (name, value) => value.map (name, ·)

/-- The volume with everything that a run with the given words works on. -/
def fill (words : List String) (environment : List (String × String)) : IO Volume := do
  let workDir := ((← IO.currentDir).toString.splitOn "/").filter (· ≠ "")
  let empty := addAbove workDir { workDir, entries := [] }
  let base := empty.put workDir .directory
  match Options.read words environment with
  | .error _ => return base
  | .ok options =>
      let place := locationOf workDir
      let base ← match options.config with
        | some path => addTree (place path) base
        | none => pure base
      match Config.load options.config base with
      | .error _ _ => return base
      | .ok config _ =>
          let directories := (options.apply config).directories
          let sources ← addTree (place directories.sourceDir) base
          let built ← addTree (place directories.buildDir) sources
          addTree (place directories.projectDir) built

end GoMend.Main

/-- Run the command with the given words. -/
def main (words : List String) : IO UInt32 := do
  let environment ← GoMend.Main.environment
  let before ← GoMend.Main.fill words environment
  let (outcome, after) := GoMend.command .standard words environment before
  GoMend.Main.carryChanges before after
  if let some line := outcome.line? then IO.println line
  if let .error _ := GoMend.Options.read words environment then
    IO.eprintln GoMend.Options.usage
  return outcome.exitCode.toUInt32
