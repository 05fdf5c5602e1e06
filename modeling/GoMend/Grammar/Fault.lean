import GoMend.Token.Kind

/-!
# Syntax errors

The reasons why a text is no source file, with the offset at which reading it
stopped.
-/

namespace GoMend

/-- Why a text is no source file. -/
inductive SyntaxFault where
  /-- Another token was required. -/
  | expected (kind : Kind)
  /-- A statement or entry goes on where it should end. -/
  | unterminated (found : Kind)
  | noOperand (found : Kind)
  | noType (found : Kind)
  /-- A statement stands outside any function. -/
  | strayStatement (found : Kind)
  /-- An import stands behind another declaration. -/
  | lateImport
  /-- Some parameters of a list have names and some have none. -/
  | mixedParameters
  | tooManyRangeVariables
  /-- Several expressions stand where only one may stand without an assignment. -/
  | noAssignment (found : Kind)
  | noCondition
  | noAlternative (found : Kind)
  | noSwitchSubject
  | noLoopCondition
  /-- The bound on the nesting of productions was too small for the text. -/
  | exhausted
  deriving DecidableEq, Repr

namespace SyntaxFault

/-- The wording of the fault. -/
def message : SyntaxFault → String
  | .expected kind => "expected " ++ kind.describe
  | .unterminated found => "expected ';', found " ++ found.describe
  | .noOperand found => "expected operand, found " ++ found.describe
  | .noType found => "expected type, found " ++ found.describe
  | .strayStatement found =>
      "non-declaration statement outside function body: " ++ found.describe
  | .lateImport => "imports must appear before other declarations"
  | .mixedParameters => "mixed named and unnamed parameters"
  | .tooManyRangeVariables => "range clause permits at most two iteration variables"
  | .noAssignment found => "expected assignment operator, found " ++ found.describe
  | .noCondition => "expected condition in if statement"
  | .noAlternative found => "expected if statement or block, found " ++ found.describe
  | .noSwitchSubject => "switch expression must be an expression"
  | .noLoopCondition => "expected for loop condition"
  | .exhausted => "nesting bound exhausted"

end SyntaxFault

/-- A fault and the offset at which reading stopped. -/
structure SyntaxError where
  fault : SyntaxFault
  offset : Nat
  deriving DecidableEq, Repr

namespace SyntaxError

/-- The wording of the error. -/
def message (error : SyntaxError) : String :=
  error.fault.message

end SyntaxError

end GoMend
