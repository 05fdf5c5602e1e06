import GoMend.Config.Reading
import GoMend.Repair.Heal
import GoMend.Sync.Directories
import GoMend.Wrap.Publish

/-!
# Updating the package

A run clears the build directory, extracts the exported files into it, moves them
into the package, adds the files that the package depends on, heals it, adds the
lookup table, and hands everything over to the project.  Steps that were taken
before a fault stay taken.
-/

namespace GoMend

/-- What a run came to. -/
structure Report where
  /-- The wrapped constructors, in the order of their files. -/
  records : List Record
  /-- How many names were mended. -/
  repairs : Nat
  /-- The lookup table in the build directory. -/
  table : Path
  /-- The files that were removed from the project. -/
  removed : List Path
  deriving DecidableEq, Repr

namespace Config

/-- Make the build directory anew. -/
def prepare (config : Config) : Disk Unit := do
  Disk.removeTree config.directories.buildDir
  Disk.makeDirectories config.directories.buildDir

/-- Put the package together in the build directory.  The records, the number of
mended names and the place of the lookup table are told. -/
def assemble (compiler : PatternCompiler) (config : Config) :
    Disk (List Record × Nat × Path) := do
  let build := config.directories.buildDir
  config.prepare
  config.package.exports.forM fun pattern => do
    let _ ← Disk.extract compiler pattern config.directories.sourceDir build
  let pipeline ← Disk.ofExcept (config.pipeline compiler)
  let records ← pipeline.publishAll build
  let _ ← Disk.copyDependencies config.package.dependencies
    config.directories.projectDir build
  let repairs ← config.origin.heal .undefinedNames config.maxRounds build
  let table ← config.table.emit records build
  return (records, repairs, table)

/-- Run with a configuration that was checked. -/
def run (compiler : PatternCompiler) (config : Config) : Disk Report := do
  let (records, repairs, table) ← config.assemble compiler
  let managed ← Disk.ofExcept (compiler.compile config.patterns.managed)
  let removed ←
    Disk.promote config.directories.buildDir config.directories.projectDir managed
  return { records, repairs, table, removed }

/-- The steps to the directory that a volume works in. -/
def workSteps (volume : Volume) : List PathComponent :=
  .root :: volume.workDir.map .named

/-- Check a configuration and run with it. -/
def update (compiler : PatternCompiler) (config : Config) : Disk Report := do
  Disk.ofExcept (config.check compiler (workSteps (← get)))
  config.run compiler

/-- The configuration in a file; without a file the standard one holds. -/
def load (path : Option Path) : Disk Config := do
  match path with
  | none => return standard
  | some path =>
      if (← get).holds path then
        Disk.ofExcept (Config.parse (← Disk.readText path))
      else return standard

end Config

end GoMend
