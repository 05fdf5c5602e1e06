import GoMend.Grammar.Fault
import GoMend.Text.Position
import GoMend.Volume.Path

/-!
# Faults

Everything that can stop a run, by cause, and the wording of each cause.  The
wording of a fault that lies with the file system, with the notation of a
configuration or with that of a pattern is not fixed here.
-/

namespace GoMend

/-- What was being done to a file or directory. -/
inductive FileAction where
  | open | close | readDirectory | write | remove | copy | createDirectory
  deriving DecidableEq, Repr

namespace FileAction

/-- The name of the action. -/
def name : FileAction → String
  | .open => "open"
  | .close => "close"
  | .readDirectory => "read directory"
  | .write => "write"
  | .remove => "remove"
  | .copy => "copy"
  | .createDirectory => "create directory"

end FileAction

/-- Why a file system refuses an action. -/
inductive FileFault where
  | notFound | isDirectory | notDirectory | alreadyExists | invalidData | invalidInput
  | directoryNotEmpty
  /-- A name or a path is too long. -/
  | invalidFileName
  deriving DecidableEq, Repr

/-- Why a constructor has no shape that can be normalised. -/
inductive ConstructorFault where
  | noReturn
  | noAssignment
  | assignmentNotUnary
  | resultNotUnary
  | operandNotComposite
  deriving DecidableEq, Repr

namespace ConstructorFault

/-- The wording of the reason. -/
def message : ConstructorFault → String
  | .noReturn => "no return statement"
  | .noAssignment => "returns an identifier but has no assignment"
  | .assignmentNotUnary => "first assignment is not a unary expression"
  | .resultNotUnary => "return has neither an identifier nor a unary expression"
  | .operandNotComposite =>
      "returned unary expression does not wrap a composite literal"

end ConstructorFault

/-- Why a configuration cannot be used. -/
inductive ConfigFault where
  /-- The text is not in the notation or a value has the wrong type. -/
  | malformed
  | noDependencies
  | noExportPatterns
  /-- The build directory is, or holds, the directory under the key. -/
  | buildContains (buildDir : Path) (key : String) (dir : Path)
  /-- A directory has no absolute form. -/
  | unresolvable (dir : Path)
  | noIterations
  deriving DecidableEq, Repr

namespace ConfigFault

/-- The wording of the reason, where it is fixed. -/
def message? : ConfigFault → Option String
  | .malformed => none
  | .noDependencies =>
      some ("the generated package requires its wrapper type files; " ++
        "list them in package.dependencies")
  | .noExportPatterns => some "no export patterns configured"
  | .buildContains buildDir key dir =>
      some ("paths.build_dir " ++ buildDir.text ++
        " is cleared before every run and must not contain paths." ++ key ++ " " ++
        dir.text)
  | .unresolvable dir =>
      some ("cannot resolve " ++ dir.text ++ ": cannot make an empty path absolute")
  | .noIterations => some "repair.max_iterations must be positive"

end ConfigFault

/-- What stops a run. -/
inductive Fault where
  /-- A source text cannot be read as a file. -/
  | unreadableSource (path : Path) (position : Position) (fault : SyntaxFault)
  | fileSystem (action : FileAction) (path : Path) (fault : FileFault)
  | constructorShape (function : String) (fault : ConstructorFault)
  | fieldNotFound (structName field : String)
  | missingBody (function : String)
  /-- A report has no position in front of its message. -/
  | malformedDiagnostic (text : String)
  /-- The last report is empty if there was none. -/
  | notConverged (iterations : Nat) (report : String)
  | invalidPattern
  | configuration (fault : ConfigFault)
  deriving DecidableEq, Repr

/-! ## Wording -/

namespace Wording

/-- A fault at a place of a file. -/
def atPosition (path : String) (position : Position) (message : String) : String :=
  path ++ ":" ++ position.render ++ ": " ++ message

/-- A refusal of the file system. -/
def fileSystem (action path message : String) : String :=
  "cannot " ++ action ++ " " ++ path ++ ": " ++ message

/-- A constructor that cannot be normalised. -/
def constructorShape (function message : String) : String :=
  "cannot rewrite constructor " ++ function ++ ": " ++ message

/-- A field that a struct does not declare. -/
def fieldNotFound (structName field : String) : String :=
  "structure " ++ structName ++ " has no field " ++ field

/-- A function that is declared without a body. -/
def missingBody (function : String) : String :=
  "function " ++ function ++ " has no body"

/-- A report without a position. -/
def malformedDiagnostic (text : String) : String :=
  "malformed diagnostic: " ++ text

/-- A repair that did not come to an end. -/
def notConverged (iterations : Nat) (report : String) : String :=
  "repair did not converge after " ++ toString iterations ++ " iterations: " ++ report

/-- A configuration that cannot be used. -/
def configuration (message : String) : String :=
  "configuration error: " ++ message

end Wording

namespace Fault

/-- The wording of a fault, where it is fixed. -/
def message? : Fault → Option String
  | .unreadableSource path position fault =>
      some (Wording.atPosition path.text position fault.message)
  | .fileSystem _ _ _ => none
  | .constructorShape function fault =>
      some (Wording.constructorShape function fault.message)
  | .fieldNotFound structName field => some (Wording.fieldNotFound structName field)
  | .missingBody function => some (Wording.missingBody function)
  | .malformedDiagnostic text => some (Wording.malformedDiagnostic text)
  | .notConverged iterations report => some (Wording.notConverged iterations report)
  | .invalidPattern => none
  | .configuration fault => fault.message?.map Wording.configuration

end Fault

end GoMend
