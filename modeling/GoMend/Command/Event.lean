import GoMend.Command.LogFilter
import GoMend.Sync.Update

/-!
# The closing event

A run ends with one event, which says what it came to or which stage a fault
stopped.  Where the wording of a fault is not fixed, the event has no message.
-/

namespace GoMend

namespace Fault

/-- The stage of a run that the fault belongs to. -/
def stage : Fault → String
  | .configuration _ | .invalidPattern => "configuration"
  | .fileSystem _ _ _ => "filesystem"
  | .unreadableSource _ _ _ => "parse"
  | .constructorShape _ _ | .fieldNotFound _ _ | .missingBody _ => "rewrite"
  | .malformedDiagnostic _ => "verification"
  | .notConverged _ _ => "repair"

end Fault

/-- How a run ended. -/
inductive Event where
  | finished (report : Report)
  | failed (fault : Fault)
  deriving DecidableEq, Repr

namespace Event

/-- The target of the event. -/
def target : String :=
  "aggsync"

/-- The names of what the event carries. -/
def fields : Event → List String
  | .finished _ => ["message", "records", "repairs", "deprecated", "mapping"]
  | .failed _ => ["message", "stage"]

/-- The level of the event. -/
def level : Event → LogLevel
  | .finished _ => .info
  | .failed _ => .error

/-- What the event says, where that is fixed. -/
def message? : Event → Option String
  | .finished _ => some "sync finished"
  | .failed fault => fault.message?.map ("sync cannot be finished: " ++ ·)

/-- The exit code of a run that ends so. -/
def exitCode : Event → Nat
  | .finished _ => 0
  | .failed _ => 1

end Event

end GoMend
