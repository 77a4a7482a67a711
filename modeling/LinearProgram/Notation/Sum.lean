import LinearProgram.Model
import LinearProgram.Notation.Fault
import LinearProgram.Text.Blank
import LinearProgram.Text.Name

/-!
# Reading sums

A sum is a sequence of terms with plus signs between them. A term is a name, possibly with a
literal and a star before it, and possibly with a minus before that; there is no subtraction, so
`a - 2*b` is written `a + -2*b`. Blanks may stand between all of these.

The number of terms is known before any of them is read, so nothing that a term contains can change
where it ends.

A term or a sum may be read as a part of a statement, which its faults then carry; read alone, it is
its own statement.
-/

namespace LinearProgram

/-- Removes a leading minus and the blanks after it, and says whether there was one. -/
def splitMinus : Text → Bool × Text
  | '-' :: s => (true, Text.trim s)
  | s => (false, s)

/-- Reads the literal of a coefficient. A fault carries the statement, if that is known. -/
def readCoefficient (statement : Option Text) (literal : Text) : Except Fault Number :=
  match readLiteral? literal with
  | some value => .ok value
  | none => .error ⟨.invalidLiteral literal, statement⟩

/-- The coefficient before the first star, or one where there is no star, and the text that should
be the name. -/
def splitFactor (statement s : Text) : Except Fault (Number × Text) :=
  if s.contains '*' then
    let literal := Text.trim (s.takeWhile (· != '*'))
    let name := Text.trim ((s.dropWhile (· != '*')).drop 1)
    if literal.isEmpty then .error (Cause.inStatement (.incomplete .missingCoefficient) statement)
    else match readCoefficient statement literal with
      | .ok value => .ok (value, name)
      | .error fault => .error fault
  else .ok (1, s)

/-- Reads one term. -/
def readTerm (statement : Option Text) (s : Text) : Except Fault (Term Number) :=
  let statement := statement.getD s
  let body := Text.trim s
  if body.isEmpty then .error (Cause.inStatement (.incomplete .emptyTerm) statement)
  else
    let (negative, rest) := splitMinus body
    match splitFactor statement rest with
    | .error fault => .error fault
    | .ok (value, name) =>
      if isName name then .ok ⟨name, if negative then -value else value⟩
      else .error (Cause.inStatement (.incomplete .missingName) statement)

/-- Reads a sum of at least one term. -/
def readTerms (statement : Option Text) (s : Text) : Except Fault (List (Term Number)) :=
  let statement := statement.getD s
  if (Text.trim s).isEmpty then .error (Cause.inStatement (.incomplete .missingTerms) statement)
  else (s.splitOn '+').mapM (readTerm (some statement))

end LinearProgram
