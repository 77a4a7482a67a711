import LinearProgram.Model
import LinearProgram.Notation.Fault

/-!
# Relational operators

An operator is any run of the characters `<`, `>` and `=`. The lenient reading looks only for the
angle brackets in it, so `<`, `=<` and `<=` mean the same; the strict reading admits the three
operators that are written.
-/

namespace LinearProgram

/-- The characters that operators consist of. -/
def isOperatorChar (c : Char) : Bool := c = '<' || c = '>' || c = '='

/-- The relation that a run of operator characters means. -/
def Relation.ofToken (token : Text) : Relation :=
  if token.contains '<' then .atMost else if token.contains '>' then .atLeast else .equal

/-- Reads an operator; the strict reading refuses all but the three written forms. The statement
that holds the operator is not known here, so a fault carries none. -/
def readOperator (strict : Bool) (token : Text) : Except Fault Relation :=
  if strict && (Relation.ofSymbol? token).isNone then
    .error ⟨.incomplete (.unsupportedOperator token), none⟩
  else .ok (.ofToken token)

theorem Relation.ofToken_symbol (relation : Relation) : ofToken relation.symbol = relation := by
  cases relation <;> decide

end LinearProgram
