import LinearProgram.Solver.Problem

/-!
# The simplex method in exact numbers

Two phases over a tableau of rational numbers. The first phase gives every row an artificial column
of its own and drives the sum of the artificial columns down: if it stays above zero, the equations
have no solution without negative entries. The second phase goes on from the basis found, with the
costs of the problem.

**Choice of the pivot.** The column of least index with a negative reduced cost enters, and of the
rows that bound it most the one with the least basic column leaves. With this rule no basis comes
back, so the number of sets of columns bounds the number of steps.
-/

namespace LinearProgram

namespace Simplex

/-- A row of the tableau: an equation solved for its basic column. -/
structure Row where
  basic : Nat
  coefficients : List Rat
  bound : Rat

/-- The rows, and the reduced costs of all columns. -/
structure Tableau where
  rows : List Row
  costs : List Rat

/-- The entry of a column; columns beyond the end hold zeros. -/
def entry (coefficients : List Rat) (j : Nat) : Rat := coefficients.getD j 0

/-- Subtracts a multiple of one row of numbers from another. -/
def subtract (entries : List Rat) (factor : Rat) (row : List Rat) : List Rat :=
  List.zipWith (fun a b => a - factor * b) entries row

/-- Divides a row by its entry in column `j`, which becomes its basic column. -/
def Row.solvedFor (row : Row) (j : Nat) : Row :=
  let pivot := entry row.coefficients j
  ⟨j, row.coefficients.map (· / pivot), row.bound / pivot⟩

/-- Removes column `j` from a row by means of the row solved for it. -/
def Row.eliminate (row solved : Row) (j : Nat) : Row :=
  let factor := entry row.coefficients j
  ⟨row.basic, subtract row.coefficients factor solved.coefficients,
    row.bound - factor * solved.bound⟩

/-- Makes `j` the basic column of row `r`, and removes it from all other rows and the costs. -/
def Tableau.pivot (t : Tableau) (r j : Nat) : Tableau :=
  match t.rows[r]? with
  | none => t
  | some row =>
    let solved := row.solvedFor j
    ⟨t.rows.mapIdx fun i other => if i = r then solved else other.eliminate solved j,
      subtract t.costs (entry t.costs j) solved.coefficients⟩

/-- The first column whose reduced cost is negative. -/
def Tableau.entering? (t : Tableau) : Option Nat := t.costs.findIdx? (· < 0)

/-- Whether the first row bounds the entering column more than the second, or equally and has the
lower basic column. -/
def bindsBefore (j : Nat) (first second : Row) : Bool :=
  let here := first.bound / entry first.coefficients j
  let there := second.bound / entry second.coefficients j
  here < there || (here = there && first.basic < second.basic)

/-- The row that bounds the entering column most, if one does. -/
def Tableau.leaving? (t : Tableau) (j : Nat) : Option Nat :=
  let choose (best : Option (Nat × Row)) (candidate : Nat × Row) : Option (Nat × Row) :=
    if entry candidate.2.coefficients j ≤ 0 then best
    else match best with
      | none => some candidate
      | some (i, row) => if bindsBefore j candidate.2 row then some candidate else some (i, row)
  ((t.rows.mapIdx fun i row => (i, row)).foldl choose none).map (·.1)

/-- How a phase ends. -/
inductive Stop where
  | optimal (tableau : Tableau) (steps : Nat)
  | unbounded
  | exhausted

/-- Steps until no reduced cost is negative, or nothing bounds the entering column. -/
def iterate : Nat → Nat → Tableau → Stop
  | 0, _, _ => .exhausted
  | limit + 1, steps, t =>
    match t.entering? with
    | none => .optimal t steps
    | some j =>
      match t.leaving? j with
      | none => .unbounded
      | some r => iterate limit (steps + 1) (t.pivot r j)

/-- More steps than there are sets of columns. -/
def stepLimit (t : Tableau) : Nat := Nat.pow 2 t.costs.length + 1

/-! ## First phase -/

/-- The equation with a bound that is not negative. -/
def oriented (equation : Equation) : Equation :=
  if equation.bound < 0 then ⟨equation.coefficients.map (- ·), -equation.bound⟩ else equation

/-- Row `i` of `count`, with an artificial column after the `width` columns of the problem. -/
def artificialRow (width count i : Nat) (equation : Equation) : Row :=
  ⟨width + i, equation.coefficients ++ (List.replicate count 0).set i 1, equation.bound⟩

/-- The tableau of the first phase. The reduced cost of a column of the problem is the sum of its
entries, negated; the artificial columns start in the basis. -/
def firstTableau (problem : Problem) : Tableau :=
  let width := problem.costs.length
  let equations := problem.equations.map oriented
  let count := equations.length
  let totals := equations.foldl (fun costs equation => subtract costs 1 equation.coefficients)
    (List.replicate width 0)
  ⟨equations.mapIdx (artificialRow width count), totals ++ List.replicate count 0⟩

/-- Whether an artificial column still has a value. -/
def hasResidue (width : Nat) (t : Tableau) : Bool :=
  t.rows.any fun row => width ≤ row.basic && row.bound != 0

/-- Takes the artificial columns out of the basis, where a row has another column to be solved
for. -/
def withoutArtificial (width : Nat) (t : Tableau) : Tableau :=
  (List.range t.rows.length).foldl (fun t r =>
    match t.rows[r]? with
    | some row =>
      if width ≤ row.basic then
        match (row.coefficients.take width).findIdx? (· != 0) with
        | some j => t.pivot r j
        | none => t
      else t
    | none => t) t

/-! ## Second phase -/

/-- The tableau of the second phase: rows that are still solved for an artificial column say
nothing and go, and the reduced costs are those of the problem. -/
def secondTableau (problem : Problem) (t : Tableau) : Tableau :=
  let width := problem.costs.length
  let rows := (t.rows.filter (·.basic < width)).map fun row =>
    { row with coefficients := row.coefficients.take width }
  ⟨rows, rows.foldl
    (fun costs row => subtract costs (entry problem.costs row.basic) row.coefficients)
    problem.costs⟩

/-- The point of a tableau: basic columns have the bounds of their rows, the others are zero. -/
def point (width : Nat) (t : Tableau) : List Rat :=
  (List.range width).map fun j =>
    match t.rows.find? (·.basic == j) with
    | some row => row.bound
    | none => 0

/-- Minimises in two phases. -/
def minimize (problem : Problem) : Verdict :=
  let width := problem.costs.length
  let start := firstTableau problem
  match iterate (stepLimit start) 0 start with
  | .exhausted => .undecided
  | .unbounded => .undecided
  | .optimal first steps =>
    if hasResidue width first then .infeasible
    else
      let next := secondTableau problem (withoutArtificial width first)
      match iterate (stepLimit next) steps next with
      | .exhausted => .undecided
      | .unbounded => .unbounded
      | .optimal last total => .optimal (point width last) total

end Simplex

/-- The solver that answers every method by the simplex method in exact numbers. -/
def exactSolver : Solver := fun _ problem => Simplex.minimize problem

end LinearProgram
