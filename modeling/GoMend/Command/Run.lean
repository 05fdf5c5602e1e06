import GoMend.Command.Event

/-!
# Running from the command line

The options are read, the configuration is loaded and adapted to them, and the
package is updated.  A request for help succeeds without a run, and misuse ends with
an exit code of its own.
-/

namespace GoMend

/-- What a call of the command comes to: its exit code, and the closing event as far
as it is logged. -/
structure Outcome where
  exitCode : Nat
  /-- The event, if the filter lets it through. -/
  event : Option Event
  /-- Whether the event is logged as structured data. -/
  structured : Bool
  deriving DecidableEq, Repr

namespace Refusal

/-- The outcome of a call that runs nothing. -/
def outcome : Refusal → Outcome
  | .help => { exitCode := 0, event := none, structured := false }
  | .misuse => { exitCode := 2, event := none, structured := false }
  | .tornFilter => { exitCode := 101, event := none, structured := false }

end Refusal

namespace Options

/-- Update the package with the given options. -/
def update (compiler : PatternCompiler) (options : Options) : Disk Report := do
  let config ← Config.load options.config
  (options.apply config).update compiler

/-- Update the package; tell how the run ended. -/
def run (compiler : PatternCompiler) (options : Options) (volume : Volume) : Event × Volume :=
  match options.update compiler volume with
  | .ok report volume => (.finished report, volume)
  | .error fault volume => (.failed fault, volume)

end Options

/-- Call the command with words and environment on a volume. -/
def command (compiler : PatternCompiler) (words : List String)
    (environment : List (String × String)) (volume : Volume) : Outcome × Volume :=
  match Options.read words environment with
  | .error refusal => (refusal.outcome, volume)
  | .ok options =>
      match LogFilter.ofOptions compiler options environment with
      | .error _ => (Refusal.tornFilter.outcome, volume)
      | .ok filter =>
          let (event, volume) := options.run compiler volume
          let passes := filter.passes Event.target event.fields event.level
          ({ exitCode := event.exitCode
             event := if passes then some event else none
             structured := options.json.getD false }, volume)

end GoMend
