import GoMend.Repair.Diagnostic
import GoMend.Scope.Resolve
import GoMend.Unit.Source
import GoMend.Volume.Disk

/-!
# Verifying a package

Several sources are checked as one package: each of them sees what any of them
declares at top level.  Sources are checked in the order of their paths, and the
first undefined name is reported.

An analyzer checks files as one package and reports the first fault it finds, in
writing.  What it reports is read back as a diagnostic; a report that is none stops
the run.
-/

namespace GoMend

namespace Source

/-- Whether a source comes no later than another one in the order of checking. -/
def notAfter (left right : Source) : Bool :=
  (left.path.compare right.path).isLE

/-- The report of the first undefined name of a source within its package. -/
def undefined? (package : PackageScope) (source : Source) : Option Diagnostic :=
  (source.file.firstUnresolved? package).map fun unresolved =>
    .undefined source.path (source.index.lines.position (unresolved.offset.getD 0))
      unresolved.name

/-- The report of the first undefined name of a package. -/
def firstUndefined? (sources : List Source) : Option Diagnostic :=
  let package := PackageScope.ofFiles (sources.map (·.file))
  (sources.mergeSort notAfter).findSome? (undefined? package)

end Source

/-- A check of files as one package, in the round with the given number. -/
structure Analyzer where
  report : Nat → List Path → Disk (Option String)

namespace Analyzer

/-- The check for undefined names. -/
def undefinedNames : Analyzer where
  report _ files := do
    let sources ← files.mapM Source.load
    return (Source.firstUndefined? sources).map Diagnostic.render

/-- Given reports, one for each round; the last one stays for good. -/
def scripted (reports : List (Option String)) : Analyzer where
  report round _ := return (reports[round]?.or reports.getLast?).join

/-- The first fault of some files. -/
def verify (analyzer : Analyzer) (round : Nat) (files : List Path) :
    Disk (Option Diagnostic) := do
  match ← analyzer.report round files with
  | none => return none
  | some report => return some (← Disk.ofExcept (Diagnostic.parse report))

/-- The first fault of the source files directly in a directory. -/
def verifyDirectory (analyzer : Analyzer) (dir : Path) : Disk (Option Diagnostic) := do
  analyzer.verify 0 (← Source.list dir)

end Analyzer

end GoMend
