import LinearProgram.StandardForm.Program

/-!
# Minimisation problems and their solvers

A solver is given a problem in exact numbers, to minimise `costs · x` over all `x ≥ 0` that satisfy
the equations, and answers with a point or with the reason why there is none. `Verdict.Correct`
says what a right answer is; it is all that the rest of the library assumes of a solver.
-/

namespace LinearProgram

/-- An equation: the product of the coefficients and the point is the bound. -/
structure Equation where
  coefficients : List Rat
  bound : Rat
  deriving DecidableEq

/-- The problem to minimise `costs · x` over the points `x ≥ 0` that satisfy the equations. -/
structure Problem where
  costs : List Rat
  equations : List Equation
  deriving DecidableEq

/-- The points over which is minimised: one entry per cost, none negative, all equations hold. -/
def Problem.Feasible (problem : Problem) (x : List Rat) : Prop :=
  x.length = problem.costs.length ∧ (∀ entry ∈ x, 0 ≤ entry) ∧
    ∀ equation ∈ problem.equations, dot equation.coefficients x = equation.bound

/-- A solver's answer. -/
inductive Verdict where
  | optimal (point : List Rat) (iterations : Nat)
  | infeasible
  | unbounded
  /-- The solver has given up. -/
  | undecided
  deriving DecidableEq

/-- What a right answer is: a point that is feasible and that no feasible point undercuts, or a
true statement on the feasible points. -/
def Verdict.Correct (problem : Problem) : Verdict → Prop
  | .optimal point _ =>
    problem.Feasible point ∧ ∀ x, problem.Feasible x → dot problem.costs point ≤ dot problem.costs x
  | .infeasible => ∀ x, ¬problem.Feasible x
  | .unbounded => ∀ value, ∃ x, problem.Feasible x ∧ dot problem.costs x < value
  | .undecided => True

/-- What is said of an answer. -/
def Verdict.message : Verdict → String
  | .optimal _ _ => "Optimization terminated successfully."
  | .infeasible => "The problem is infeasible."
  | .unbounded => "The problem is unbounded."
  | .undecided => "Iteration limit reached."

/-- The methods that a solver can be asked to use. -/
inductive Method where
  | automatic
  | dualSimplex
  | interiorPoint
  deriving DecidableEq

namespace Method

/-- All methods, in the order in which they are listed. -/
def all : List Method := [automatic, dualSimplex, interiorPoint]

/-- The name of a method. -/
def label : Method → String
  | .automatic => "highs"
  | .dualSimplex => "highs-ds"
  | .interiorPoint => "highs-ipm"

/-- The method of the given name. -/
def ofLabel? (name : Text) : Option Method :=
  all.find? fun method => method.label == String.ofList name

/-- What is said of a name that no method has. -/
def unknownMessage (name : Text) : String :=
  "Unknown linprog method '" ++ String.ofList name ++ "'. Available: [" ++
    ", ".intercalate (all.map fun method => quoted method.label.toList) ++ "]"

end Method

/-- A solver: what it answers to a problem when it is asked to use a method. -/
abbrev Solver := Method → Problem → Verdict

/-- A solver whose answers are right. -/
def Solver.Correct (solver : Solver) : Prop :=
  ∀ method problem, (solver method problem).Correct problem

end LinearProgram
