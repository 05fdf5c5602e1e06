import GoMend.Volume.Disk
import GoMend.Wrap.Pipeline

/-!
# Files of the three directories

Files go from the source directory to the build directory, and from there to the
project.  Only files directly in a directory count, and they are taken in the order
of their names.
-/

namespace GoMend

namespace Disk

/-- The files directly in a directory whose name matches. -/
def filesMatching (dir : Path) (pattern : Matcher) : Disk (List Path) := do
  return (← files dir).filter fun path => pattern.occursIn path.fileName

/-- Copy files into a directory under their own names, in a given way; tell where they
went. -/
def copyIntoBy (copy : Path → Path → Disk Unit) (dir : Path) (sources : List Path) :
    Disk (List Path) :=
  sources.mapM fun source => do
    let target := dir.join source.fileName
    copy source target
    return target

/-- Copy files into a directory under their own names; tell where they went. -/
def copyInto (dir : Path) (sources : List Path) : Disk (List Path) :=
  copyIntoBy copy dir sources

/-- Copy the files whose name matches into a directory that is made first. -/
def extract (compiler : PatternCompiler) (pattern : String) (source target : Path) :
    Disk (List Path) := do
  let pattern ← ofExcept (compiler.compile pattern)
  makeDirectories target
  copyInto target (← filesMatching source pattern)

/-- Copy given files of a directory into another one that is made first. -/
def copyDependencies (names : List String) (source target : Path) : Disk (List Path) := do
  makeDirectories target
  copyInto target (names.map source.join)

/-- Copy the finished files into the project, in a given way, and remove the files there
whose name matches unless a finished file has it.  The removed files are told. -/
def promoteBy (copy : Path → Path → Disk Unit) (build project : Path) (managed : Matcher) :
    Disk (List Path) := do
  let published ← filesMatching project managed
  let built ← files build
  let stale := published.filter fun path => !(built.map (·.fileName)).contains path.fileName
  makeDirectories project
  let _ ← copyIntoBy copy project built
  stale.forM remove
  return stale

/-- Hand the finished files over to the project. -/
def promote (build project : Path) (managed : Matcher) : Disk (List Path) :=
  promoteBy copy build project managed

end Disk

end GoMend
