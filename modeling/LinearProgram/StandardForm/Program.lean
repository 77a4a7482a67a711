import LinearProgram.Model

/-!
# Programs in standard form

A program in standard form asks for columns `x ≥ 0` with `matrix · x = bounds` that make
`costs · x` maximal or minimal. Its columns are the declared variables followed by one slack for
each inequality.
-/

namespace LinearProgram

/-- A linear program in standard form. Every row of the matrix, and the costs, have one entry per
column. -/
structure Program (α : Type) where
  matrix : List (List α)
  bounds : List α
  costs : List α
  direction : Direction
  unknowns : List Text
  slacks : List Text
  deriving DecidableEq

/-- The short name of a direction. -/
def Direction.label : Direction → String
  | .maximize => "max"
  | .minimize => "min"

namespace Program

variable {α : Type}

/-- The names of the columns: the variables, then the slacks. -/
def columns (p : Program α) : List Text := p.unknowns ++ p.slacks

/-- The number of rows. -/
def rowCount (p : Program α) : Nat := p.matrix.length

/-- The number of columns. -/
def columnCount (p : Program α) : Nat := p.columns.length

end Program

/-! ## Exact values -/

/-- The product of a row and a column vector. -/
def dot : List Rat → List Rat → Rat
  | a :: row, x :: point => a * x + dot row point
  | _, _ => 0

/-- The numbers as rationals, if all of them have an exact value. -/
def exactly? {α : Type} [ExactValue α] (numbers : List α) : Option (List Rat) :=
  numbers.mapM ExactValue.toRat?

end LinearProgram
