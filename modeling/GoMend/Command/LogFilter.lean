import GoMend.Command.Directive

/-!
# Log filters

Which events are logged is told by directives, separated by commas.  Of the directives
that concern an event the one that looks most closely decides, and of two that look
equally closely the later one.  An event that none concerns is not logged.
-/

namespace GoMend

/-- The directives that can decide about events by what these tell themselves. -/
structure LogFilter where
  directives : List Directive
  deriving DecidableEq, Repr

namespace LogFilter

/-- The texts of the directives of a list. -/
def texts (text : String) : List (List Char) :=
  (Options.splitCommas text.toList).filter (!·.isEmpty)

/-- Pass over the directives that cannot decide. -/
def ofDirectives (directives : List Directive) : LogFilter where
  directives := directives.filter (·.decidesAlone)

/-- Read a list of directives, all of which have to be understood. -/
def ofText (compiler : PatternCompiler) (text : String) : Except DirectiveFault LogFilter := do
  return ofDirectives (← (texts text).mapM (Directive.ofText compiler))

/-- The directives among some texts; the malformed ones are passed over. -/
def wellFormed (compiler : PatternCompiler) :
    List (List Char) → Except DirectiveFault (List Directive)
  | [] => .ok []
  | text :: rest =>
      match Directive.ofText compiler text with
      | .ok directive => (wellFormed compiler rest).map (directive :: ·)
      | .error .malformed => wellFormed compiler rest
      | .error .torn => .error .torn

/-- Read what can be understood of a list of directives; if that is nothing, errors are
let through. -/
def ofMixedText (compiler : PatternCompiler) (text : String) : Except DirectiveFault LogFilter := do
  let directives ← wellFormed compiler (texts text)
  if directives.any fun directive => directive.isConditional || directive.decidesAlone then
    return ofDirectives directives
  else return { directives := [{ Directive.everything with limit := LogLevel.error.rank }] }

/-- The directive that decides about an event with a target and fields. -/
def deciding? (filter : LogFilter) (target : String) (fields : List String) :
    Option Directive :=
  let concerned := filter.directives.filter (·.concerns target fields)
  concerned.foldl (fun best directive =>
    match best with
    | some other =>
        if (directive.compareCloseness other).isGE then some directive else best
    | none => some directive) none

/-- Whether an event is let through. -/
def passes (filter : LogFilter) (target : String) (fields : List String)
    (level : LogLevel) : Bool :=
  (filter.deciding? target fields).any fun directive => level.rank ≤ directive.limit

/-- The variable that takes precedence over the option. -/
def environmentName : String :=
  "RUST_LOG"

/-- The level that holds if none is given. -/
def standardLevel : String :=
  "info"

/-- The filter of a run: that of the variable, or that of the option if the variable is
not set or malformed. -/
def ofOptions (compiler : PatternCompiler) (options : Options)
    (environment : List (String × String)) : Except DirectiveFault LogFilter :=
  let standard := ofMixedText compiler (options.logLevel.getD standardLevel)
  match environment.find? (·.1 == environmentName) with
  | some (_, text) =>
      match ofText compiler text with
      | .error .malformed => standard
      | given => given
  | none => standard

end LogFilter

end GoMend
