import LinearProgram.Text.Quoted

/-!
# What can be wrong with a document

Reading stops at the first statement that cannot be read. A `Fault` tells what is wrong there, its
`Cause`, and carries the statement. Causes fall into five kinds (`FaultKind`); every message is
written by `Fault.message`.

Readers of parts of a statement are told the statement, so that their faults carry it too.
-/

namespace LinearProgram

/-- A required part of a statement that is missing or in the wrong place. -/
inductive Defect where
  /-- Two plus signs have nothing between them, or one stands at an end of the sum. -/
  | emptyTerm
  /-- A star has nothing before it. -/
  | missingCoefficient
  /-- What should be the name in a term is none. -/
  | missingName
  /-- A sum has no terms at all. -/
  | missingTerms
  | invalidDeclaration
  | invalidObjective
  | invalidConstraint
  | missingOperator
  | missingConstant
  /-- A second relational operator follows the first one. -/
  | repeatedOperator
  /-- The operator is not one of the three that the strict reading admits. -/
  | unsupportedOperator (token : Text)
  deriving DecidableEq

/-- Why a document cannot be read. -/
inductive Cause where
  /-- The statement is of no kind. -/
  | unknownStatement
  /-- The document ends without an objective. -/
  | noObjective
  /-- There is a second objective, and the policy does not let it replace the first. -/
  | repeatedObjective
  /-- A coefficient or a constant is no number. -/
  | invalidLiteral (literal : Text)
  | incomplete (defect : Defect)
  deriving DecidableEq

/-- The kinds of causes. -/
inductive FaultKind where
  | unknownStatement
  | noObjective
  | repeatedObjective
  | invalidLiteral
  | incomplete
  deriving DecidableEq

/-- Why a document cannot be read, and the statement at which that shows, if there is one. -/
structure Fault where
  cause : Cause
  statement : Option Text
  deriving DecidableEq

/-- What a defect is called. -/
def Defect.message : Defect → String
  | .emptyTerm => "Empty term"
  | .missingCoefficient => "Missing coefficient before '*'"
  | .missingName => "Term has no variable name"
  | .missingTerms => "Missing terms"
  | .invalidDeclaration => "Invalid variable declaration"
  | .invalidObjective => "Invalid objective"
  | .invalidConstraint => "Invalid constraint"
  | .missingOperator => "Missing relational operator"
  | .missingConstant => "Missing constant"
  | .repeatedOperator => "More than one relational operator"
  | .unsupportedOperator token => "Unsupported relational operator " ++ quoted token

namespace Cause

/-- What a cause is called. -/
def message : Cause → String
  | .unknownStatement => "Unknown statement type"
  | .noObjective => "No objective function provided"
  | .repeatedObjective => "Multiple objective statements"
  | .invalidLiteral literal => "Invalid numeric literal " ++ quoted literal
  | .incomplete defect => defect.message

/-- The kind of a cause. -/
def kind : Cause → FaultKind
  | .unknownStatement => .unknownStatement
  | .noObjective => .noObjective
  | .repeatedObjective => .repeatedObjective
  | .invalidLiteral _ => .invalidLiteral
  | .incomplete _ => .incomplete

/-- The literal that is no number, where that is the cause. -/
def literal? : Cause → Option Text
  | .invalidLiteral literal => some literal
  | _ => none

/-- The fault with this cause at a statement. -/
def inStatement (cause : Cause) (statement : Text) : Fault := ⟨cause, some statement⟩

end Cause

/-- The whole message: what is wrong, and the statement, if there is one. -/
def Fault.message (fault : Fault) : String :=
  match fault.statement with
  | some statement => fault.cause.message ++ ": " ++ quoted statement
  | none => fault.cause.message

end LinearProgram
