import LinearProgram.Journal
import LinearProgram.Solver.Problem

/-!
# Solving programs

A program is handed to a solver as a minimisation problem; where the program maximises, its costs
are negated for the solver and the objective is computed from the costs as they are. The solution
names its values by the declared variables only.

All numbers are exact here. They are rounded for display by `Solution.rounded`.
-/

namespace LinearProgram

/-- The outcome of solving a program. -/
structure Solution (α : Type) where
  solved : Bool
  message : String
  /-- The values of all columns. -/
  point : Option (List α)
  /-- The value of the objective, undefined when there is no solution. -/
  objective : Option α
  /-- The values of the declared variables. -/
  values : List (Text × α)
  iterations : Nat
  deriving DecidableEq

namespace Solution

/-- The outcome without a solution. -/
def failure {α : Type} (message : String) : Solution α := ⟨false, message, none, none, [], 0⟩

/-- The solution with every number converted. -/
def map {α β : Type} (f : α → β) (s : Solution α) : Solution β :=
  ⟨s.solved, s.message, s.point.map (·.map f), s.objective.map f,
    s.values.map fun (name, value) => (name, f value), s.iterations⟩

/-- The solution in numbers of double precision. -/
def rounded (s : Solution Rat) : Solution Number := s.map .ofRat

/-- The value of the objective as a number, which is undefined when there is no solution. -/
def objectiveNumber (s : Solution Number) : Number := s.objective.getD .undefined

end Solution

/-- Enters a value under a name. A value that is already there under the name is replaced. -/
def enterValue {α : Type} (entries : List (Text × α)) (entry : Text × α) : List (Text × α) :=
  if entries.any (·.1 == entry.1) then
    entries.map fun old => if old.1 == entry.1 then entry else old
  else entries ++ [entry]

/-- The values by their names, one entry for each name. -/
def valuesByName {α : Type} (pairs : List (Text × α)) : List (Text × α) := pairs.foldl enterValue []

/-- Why a program cannot be handed to a solver. -/
inductive InputFault where
  | noColumns
  | costsNotFinite
  | matrixNotFinite
  | boundsNotFinite
  deriving DecidableEq

/-- What is said of a program that cannot be handed to a solver. -/
def InputFault.message : InputFault → String
  | .noColumns => "c must be a 1-D array and must not have more than one non-singleton dimension"
  | .costsNotFinite => "c must not contain values inf, nan, or None"
  | .matrixNotFinite => "A_eq must not contain values inf, nan, or None"
  | .boundsNotFinite => "b_eq must not contain values inf, nan, or None"

/-- The whole message of a program that cannot be handed to a solver. -/
def InputFault.report (fault : InputFault) : String :=
  "linprog failed: Invalid input for linprog: " ++ fault.message

namespace Program

/-! ## Handing a program over -/

section Exact

variable {α : Type} [ExactValue α]

/-- The program in exact numbers. What keeps it from a solver is looked for in the costs first,
then in the matrix and then in the bounds. -/
def exact (p : Program α) : Except InputFault (Program Rat) :=
  if p.columnCount = 0 then .error .noColumns
  else match exactly? p.costs with
    | none => .error .costsNotFinite
    | some costs =>
      match p.matrix.mapM exactly? with
      | none => .error .matrixNotFinite
      | some matrix =>
        match exactly? p.bounds with
        | none => .error .boundsNotFinite
        | some bounds => .ok ⟨matrix, bounds, costs, p.direction, p.unknowns, p.slacks⟩

end Exact

/-- The costs in the direction in which solvers work. -/
def minimizedCosts (p : Program Rat) : List Rat :=
  match p.direction with
  | .maximize => p.costs.map (- ·)
  | .minimize => p.costs

/-- The problem that a solver is given. -/
def problem (p : Program Rat) : Problem :=
  ⟨p.minimizedCosts, List.zipWith Equation.mk p.matrix p.bounds⟩

/-! ## Solving -/

/-- The solution that a solver's answer leads to. -/
def solutionOf (p : Program Rat) (verdict : Verdict) : Solution Rat :=
  match verdict with
  | .optimal point iterations =>
    ⟨true, verdict.message, some point, some (dot p.costs point),
      valuesByName (p.unknowns.zip point), iterations⟩
  | _ => .failure verdict.message

/-- Solves a program in exact numbers with a solver and one of its methods. -/
def solveExact (solver : Solver) (p : Program Rat) (method : Method) : Solution Rat :=
  p.solutionOf (solver method p.problem)

/-- What is reported of a solution. -/
def solutionEntry (method : Method) (solution : Solution Rat) : Journal.Entry :=
  match solution.objective with
  | some objective =>
    ⟨.info, .solver, "LP solved with " ++ method.label ++ ": objective=" ++
      String.ofList (NumberFormat.general.write (.ofRat objective)) ++ " after " ++
      toString solution.iterations ++ " iterations"⟩
  | none => ⟨.info, .solver, "LP not solved: " ++ solution.message⟩

section Solve

variable {α : Type} [ExactValue α]

/-- Solves a program, if it can be handed to a solver, and reports. -/
def solve (solver : Solver) (p : Program α) (method : Method) : Journaled (Solution Rat) :=
  match p.exact with
  | .error fault => ⟨.failure fault.report, [⟨.error, .solver, fault.report⟩]⟩
  | .ok exact =>
    let solution := exact.solveExact solver method
    ⟨solution, [solutionEntry method solution]⟩

/-- Solves a program by the method of the given name, if there is one, and reports. -/
def solveNamed (solver : Solver) (p : Program α) (name : Text) :
    Journaled (Except Text (Solution Rat)) :=
  match Method.ofLabel? name with
  | none => ⟨.error name, []⟩
  | some method =>
    let result := p.solve solver method
    ⟨.ok result.value, result.entries⟩

end Solve

end Program

/-- The name under which the solver is listed. -/
def solverLabel : String := "scipy"

/-- The solver's full name. -/
def solverTitle : String := "SciPy linprog"

end LinearProgram
