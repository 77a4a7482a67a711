import LinearProgram.Notation.Operator
import LinearProgram.Notation.Sum

/-!
# Reading single statements

There are four kinds of statements. A statement is of the first kind, in the order in which
`Statement.Kind` lists them, whose mark it contains anywhere: a number sign makes a comment of any
statement, and a constraint with the name `variance` is taken for a declaration and then refused.

The three readers begin in the same way, with a keyword, blanks and a name (`titled?`).
-/

namespace LinearProgram

namespace Statement

/-! ## Kinds -/

/-- The kinds of statements, the one that takes precedence first. -/
inductive Kind where
  | comment
  | declaration
  | objective
  | constraint
  deriving DecidableEq

def varKeyword : Text := ['v', 'a', 'r']

def minimizeKeyword : Text := ['m', 'i', 'n', 'i', 'm', 'i', 'z', 'e']

def maximizeKeyword : Text := ['m', 'a', 'x', 'i', 'm', 'i', 'z', 'e']

def subjectKeyword : Text := ['s', 'u', 'b', 'j', 'e', 'c', 't']

def toKeyword : Text := ['t', 'o']

/-- The mark of a constraint, which has exactly one space between its words. -/
def subjectToMark : Text := subjectKeyword ++ ' ' :: toKeyword

/-- The kind of a statement, if it contains the mark of one. -/
def kind? (s : Text) : Option Kind :=
  if s.contains '#' then some .comment
  else if Text.mentions varKeyword s then some .declaration
  else if Text.mentions minimizeKeyword s || Text.mentions maximizeKeyword s then some .objective
  else if Text.mentions subjectToMark s then some .constraint
  else none

/-- The kind of a statement, which has to be of one. -/
def classify (s : Text) : Except Fault Kind :=
  match kind? s with
  | some kind => .ok kind
  | none => .error (Cause.unknownStatement.inStatement s)

/-! ## Beginnings -/

/-- After a keyword: blanks, a name, and whatever follows. -/
def named? (s : Text) : Option (Text × Text) := (Text.afterBlanks? s).bind Text.leadingName?

/-- After a keyword: blanks, a name, a colon, and the body behind the colon. -/
def titled? (s : Text) : Option (Text × Text) :=
  match named? s with
  | some (name, rest) =>
    match Text.trimStart rest with
    | ':' :: body => some (name, body)
    | _ => none
  | none => none

/-! ## Readers -/

/-- The name in a declaration: the keyword, blanks and the name, and nothing else. -/
def declared? (s : Text) : Option Text :=
  match (Text.afterPrefix? varKeyword s).bind named? with
  | some (name, []) => some name
  | _ => none

/-- Reads a declaration, which gives its variable the coefficient zero. -/
def readDeclaration (s : Text) : Except Fault (Term Number) :=
  match declared? (Text.trim s) with
  | some name => .ok ⟨name, 0⟩
  | none => .error (Cause.inStatement (.incomplete .invalidDeclaration) s)

/-- The direction, the name and the body of an objective. -/
def objectiveParts? (s : Text) : Option (Direction × Text × Text) :=
  match Text.afterPrefix? minimizeKeyword s with
  | some rest => (titled? rest).map (Direction.minimize, ·)
  | none =>
    match Text.afterPrefix? maximizeKeyword s with
    | some rest => (titled? rest).map (Direction.maximize, ·)
    | none => none

/-- Reads an objective: a direction, a title and a sum. -/
def readObjective (s : Text) : Except Fault (Objective Number) :=
  match objectiveParts? (Text.trim s) with
  | none => .error (Cause.inStatement (.incomplete .invalidObjective) s)
  | some (direction, name, body) =>
    match readTerms (some s) body with
    | .error fault => .error fault
    | .ok terms => .ok ⟨name, terms, direction⟩

/-- The name and the body of a constraint. -/
def constraintParts? (s : Text) : Option (Text × Text) :=
  (((Text.afterPrefix? subjectKeyword s).bind Text.afterBlanks?).bind
    (Text.afterPrefix? toKeyword)).bind titled?

/-- The body of a constraint in three parts: what stands before the first operator character, the
run of operator characters, and what follows it without blanks at its ends. -/
structure Comparison where
  left : Text
  token : Text
  right : Text
  deriving DecidableEq

/-- Takes the body of a constraint apart. -/
def Comparison.ofBody (body : Text) : Comparison :=
  let rest := body.dropWhile fun c => !isOperatorChar c
  ⟨body.takeWhile fun c => !isOperatorChar c, rest.takeWhile isOperatorChar,
    Text.trim (rest.dropWhile isOperatorChar)⟩

/-- Reads the constant of a constraint: a literal, possibly with a minus before it. A constant that
cannot be read is reported whole. -/
def readConstant (statement s : Text) : Except Fault Number :=
  let (negative, rest) := splitMinus s
  match readLiteral? rest with
  | some value => .ok (if negative then -value else value)
  | none => .error (Cause.inStatement (.invalidLiteral s) statement)

/-- Reads the body of a constraint. That its parts are there is checked before any is read, and the
constant is read before the sum. The operator's reader does not know the statement, so a fault of
its own is put into it here. -/
def readComparison (strict : Bool) (statement name body : Text) :
    Except Fault (Constraint Number) :=
  let parts := Comparison.ofBody body
  let refuse (defect : Defect) := .error (Cause.inStatement (.incomplete defect) statement)
  if parts.token.isEmpty then refuse .missingOperator
  else if (Text.trim parts.left).isEmpty then refuse .missingTerms
  else if parts.right.isEmpty then refuse .missingConstant
  else if parts.right.any isOperatorChar then refuse .repeatedOperator
  else match readOperator strict parts.token with
    | .error fault => .error (fault.cause.inStatement statement)
    | .ok relation =>
      match readConstant statement parts.right with
      | .error fault => .error fault
      | .ok constant =>
        match readTerms (some statement) parts.left with
        | .error fault => .error fault
        | .ok terms => .ok ⟨name, terms, constant, relation⟩

/-- Reads a constraint: a title, a sum, an operator and a constant. -/
def readConstraint (strict : Bool) (s : Text) : Except Fault (Constraint Number) :=
  match constraintParts? (Text.trim s) with
  | none => .error (Cause.inStatement (.incomplete .invalidConstraint) s)
  | some (name, body) => readComparison strict s name body

end Statement

end LinearProgram
