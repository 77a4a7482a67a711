import LinearProgram.Display.Console
import LinearProgram.Solver.Solution

/-!
# Reports

How models, programs and solutions are shown: the model as its objective, its variables and a table
of its constraints; the program as its matrix with the bounds beside and the costs below; the
solution as a table of values and the value of the objective. Numbers are shown in six digits.

A report is printed as it is. The names in a document have neither brackets nor colons, so nothing
in the report of its model can be taken for a tag or a code.
-/

namespace LinearProgram

/-- A number as it is shown. -/
def shownNumber (x : Number) : Text := NumberFormat.general.write x

/-- The word for a direction. -/
def Direction.word : Direction → String
  | .maximize => "maximize"
  | .minimize => "minimize"

namespace Model

/-- The constraints as a table. -/
def constraintTable (m : Model Number) : Table where
  title := "Constraints".toList
  columns := [⟨"Name".toList, .left⟩, ⟨"Terms".toList, .left⟩, ⟨"Relation".toList, .center⟩,
    ⟨"Constant".toList, .right⟩]
  rows := m.constraints.map fun c =>
    [c.name, writeTerms c.terms, c.relation.symbol, shownNumber c.constant]

/-- The report of a model. -/
def report (console : Console) (m : Model Number) : List Text :=
  let names := if m.declarations.isEmpty then ['-'] else [',', ' '].intercalate m.variableNames
  console.lines ('\n' :: (m.objective.direction.word.toList ++ ' ' :: m.objective.name ++
      ':' :: ' ' :: writeTerms m.objective.terms)) ++
    console.lines ("Variables: ".toList ++ names ++ ['\n']) ++
    if m.constraints.isEmpty then console.lines "No constraints\n".toList
    else console.tableLines m.constraintTable

end Model

namespace Program

/-- The program as a table: a numbered row for each equation with its bound at the end, and the
costs in the last row. -/
def table (p : Program Number) : Table where
  title := ("Standard form (" ++ p.direction.label ++ ")").toList
  columns := ⟨"Row".toList, .left⟩ ::
    (p.columns.map (fun name => ⟨name, .right⟩) ++ [⟨['b'], .right⟩])
  rows :=
    (p.matrix.zip p.bounds).mapIdx (fun i (row, bound) =>
      (toString (i + 1)).toList :: (row.map shownNumber ++ [shownNumber bound])) ++
    [['c'] :: (p.costs.map shownNumber ++ [[]])]

/-- The report of a program. -/
def report (console : Console) (p : Program Number) : List Text := console.tableLines p.table

end Program

namespace Solution

/-- The values as a table. -/
def table (s : Solution Number) : Table where
  title := "Solution".toList
  columns := [⟨"Variable".toList, .left⟩, ⟨"Value".toList, .right⟩]
  rows := s.values.map fun (name, value) => [name, shownNumber value]

/-- The report of a solution. -/
def report (console : Console) (s : Solution Number) : List Text :=
  if s.solved then
    console.tableLines s.table ++
      console.lines ("✓ Objective value: ".toList ++ shownNumber s.objectiveNumber ++
        (" (" ++ toString s.iterations ++ " iterations)\n").toList)
  else console.lines ("\n✗ Not solved: " ++ s.message ++ "\n").toList

end Solution

end LinearProgram
