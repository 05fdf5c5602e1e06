import GoMend.Config.Basic
import GoMend.Repair.Verify

/-!
# Healing a package

A package heals in rounds.  Each round checks the package and mends the one name
that is reported: the origin is imported into the file, and the name is qualified
with it.  Healing ends when nothing is reported any more, or with a fault when the
rounds are used up.
-/

namespace GoMend

/-- What a round of healing came to. -/
inductive Healed where
  /-- Nothing is left to report. -/
  | clean
  /-- The reported name was qualified. -/
  | repaired (diagnostic : Diagnostic)
  /-- No name begins at the reported position, and nothing was changed. -/
  | unrepaired (diagnostic : Diagnostic)
  deriving DecidableEq, Repr

namespace Origin

/-- Import the origin into a source and qualify the name at a position, if there is
one. -/
def mend? (origin : Origin) (position : Position) (source : Source) : Option Source :=
  let (_, imported) := source.addImport none origin.path
  (imported.qualify position origin.name).map (·.2)

/-- Mend the name that is reported; tell whether there was one. -/
def repair (origin : Origin) (diagnostic : Diagnostic) : Disk Bool := do
  let source ← Source.load diagnostic.path
  match origin.mend? diagnostic.position source with
  | some mended =>
      mended.save
      return true
  | none => return false

/-- Check some files and mend the name that is reported. -/
def healOnce (origin : Origin) (analyzer : Analyzer) (round : Nat) (files : List Path) :
    Disk Healed := do
  match ← analyzer.verify round files with
  | none => return .clean
  | some diagnostic =>
      if ← origin.repair diagnostic then return .repaired diagnostic
      else return .unrepaired diagnostic

/-- The rounds of healing that are left, after so many rounds with so many repairs;
the last report stands for all before it. -/
def healRounds (origin : Origin) (analyzer : Analyzer) (dir : Path) :
    Nat → Nat → Nat → Option Diagnostic → Disk Nat
  | 0, rounds, _, last => throw (.notConverged rounds ((last.map (·.render)).getD ""))
  | left + 1, rounds, repairs, _ => do
      match ← origin.healOnce analyzer rounds (← Source.list dir) with
      | .clean => return repairs
      | .repaired diagnostic =>
          origin.healRounds analyzer dir left (rounds + 1) (repairs + 1) (some diagnostic)
      | .unrepaired diagnostic =>
          origin.healRounds analyzer dir left (rounds + 1) repairs (some diagnostic)

/-- Heal the source files directly in a directory; tell how many names were
mended. -/
def heal (origin : Origin) (analyzer : Analyzer) (maxRounds : Nat) (dir : Path) :
    Disk Nat :=
  origin.healRounds analyzer dir maxRounds 0 0 none

end Origin

end GoMend
