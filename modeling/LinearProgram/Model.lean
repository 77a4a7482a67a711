import LinearProgram.Number.Notation
import LinearProgram.Text.Quoted

/-!
# Linear models

What a document describes: declared variables, named linear constraints and one linear objective,
every sum kept as the list of its terms, in the order in which they were written and with repeated
names.

The types leave the kind of number open. Documents are read into models over `Number`; the same
models over the rationals say what they mean exactly (`Model.rational?`).
-/

namespace LinearProgram

/-- One occurrence of a variable in a sum, with its coefficient. A declaration is an occurrence
with the coefficient zero. -/
structure Term (α : Type) where
  name : Text
  coefficient : α
  deriving DecidableEq

/-- How the two sides of a constraint compare. -/
inductive Relation where
  | atMost
  | atLeast
  | equal
  deriving DecidableEq

/-- A named constraint: the sum of the terms stands in the relation to the constant. -/
structure Constraint (α : Type) where
  name : Text
  terms : List (Term α)
  constant : α
  relation : Relation
  deriving DecidableEq

/-- Whether a greatest or a least value is sought. -/
inductive Direction where
  | maximize
  | minimize
  deriving DecidableEq

/-- A named objective: the sum of the terms is to be maximal or minimal. -/
structure Objective (α : Type) where
  name : Text
  terms : List (Term α)
  direction : Direction
  deriving DecidableEq

/-- A linear model: declarations and constraints in document order, and the objective. -/
structure Model (α : Type) where
  declarations : List (Term α)
  constraints : List (Constraint α)
  objective : Objective α
  deriving DecidableEq

/-! ## Relations -/

namespace Relation

/-- The operator that is written for the relation. -/
def symbol : Relation → Text
  | .atMost => ['<', '=']
  | .atLeast => ['>', '=']
  | .equal => ['=', '=']

/-- The relation with exactly this operator. -/
def ofSymbol? (s : Text) : Option Relation :=
  [atMost, atLeast, equal].find? fun relation => relation.symbol == s

/-- What is said of a text that is the operator of no relation. -/
def unknownSymbolMessage (s : Text) : String := quoted s ++ " is not a valid Relation"

theorem ofSymbol?_symbol (relation : Relation) : ofSymbol? relation.symbol = some relation := by
  cases relation <;> decide

theorem symbol_of_ofSymbol? {s : Text} {relation : Relation} (h : ofSymbol? s = some relation) :
    relation.symbol = s := by
  simpa using List.find?_some h

end Relation

/-! ## Looking things up -/

namespace Model

variable {α : Type}

/-- The names of the declared variables, in order. -/
def variableNames (m : Model α) : List Text := m.declarations.map (·.name)

/-- The first constraint of the given name. -/
def constraint? (m : Model α) (name : Text) : Option (Constraint α) :=
  m.constraints.find? (·.name == name)

end Model

/-! ## Exact values -/

/-- The term with its coefficient as a rational number, if that is finite. -/
def Term.rational? (t : Term Number) : Option (Term Rat) :=
  t.coefficient.toRat?.map fun value => ⟨t.name, value⟩

/-- The constraint with its numbers as rationals, if all are finite. -/
def Constraint.rational? (c : Constraint Number) : Option (Constraint Rat) := do
  let terms ← c.terms.mapM Term.rational?
  let constant ← c.constant.toRat?
  return ⟨c.name, terms, constant, c.relation⟩

/-- The objective with its numbers as rationals, if all are finite. -/
def Objective.rational? (o : Objective Number) : Option (Objective Rat) := do
  let terms ← o.terms.mapM Term.rational?
  return ⟨o.name, terms, o.direction⟩

/-- The model with its numbers as rationals, if all are finite. -/
def Model.rational? (m : Model Number) : Option (Model Rat) := do
  let declarations ← m.declarations.mapM Term.rational?
  let constraints ← m.constraints.mapM Constraint.rational?
  let objective ← m.objective.rational?
  return ⟨declarations, constraints, objective⟩

/-! ## Meaning -/

/-- The value of a sum of terms at an assignment of its variables. -/
def termsValue (x : Text → Rat) (terms : List (Term Rat)) : Rat :=
  terms.foldr (fun t rest => t.coefficient * x t.name + rest) 0

/-- Whether two numbers stand in the relation. -/
def Relation.Holds : Relation → Rat → Rat → Prop
  | .atMost, left, right => left ≤ right
  | .atLeast, left, right => right ≤ left
  | .equal, left, right => left = right

/-- Whether an assignment satisfies the constraint. -/
def Constraint.Satisfied (c : Constraint Rat) (x : Text → Rat) : Prop :=
  c.relation.Holds (termsValue x c.terms) c.constant

/-- The value of the objective at an assignment. -/
def Objective.value (o : Objective Rat) (x : Text → Rat) : Rat := termsValue x o.terms

/-! ## Writing sums -/

/-- A term as it is displayed: the coefficient in six digits, a star and the name. -/
def Term.write (t : Term Number) : Text :=
  NumberFormat.general.write t.coefficient ++ '*' :: t.name

/-- A sum as it is displayed: its terms, joined by plus signs. -/
def writeTerms (terms : List (Term Number)) : Text :=
  [' ', '+', ' '].intercalate (terms.map Term.write)

end LinearProgram
