import LinearProgram.StandardForm.Assembler
import LinearProgram.StandardForm.Program

/-!
# Assembling a program in standard form

Each inequality gets a slack column of its own, so that it becomes an equation:

* `20*x + 6*y ≤ 182` becomes `20 x + 6 y + s = 182`,
* `x + y ≥ 1` becomes `x + y - s = 1`,
* `x == 2` needs no slack.

The state of an assembly (`Assembly`) is what has been accepted so far: names of variables and of
constraints are distinct, and the last objective counts. Variables are kept in order and, to find
their columns, in an index by name. A failed step leaves the state as it was, and finishing never
changes it, so more can be added afterwards and the assembly finished again.
-/

namespace LinearProgram

/-- Whose sum it is that uses a variable. -/
inductive Owner where
  | constraint (name : Text)
  | objective (name : Text)
  deriving DecidableEq

/-- Why a step of an assembly fails. -/
inductive AssemblyFault where
  | repeatedVariable (name : Text)
  | repeatedConstraint (name : Text)
  | missingObjective
  | undeclared (owner : Owner) (name : Text)
  deriving DecidableEq

/-- How an owner is called. -/
def Owner.message : Owner → String
  | .constraint name => "Constraint '" ++ String.ofList name ++ "'"
  | .objective name => "Objective '" ++ String.ofList name ++ "'"

/-- What is said of a failed step. -/
def AssemblyFault.message : AssemblyFault → String
  | .repeatedVariable name => "Variable '" ++ String.ofList name ++ "' declared more than once"
  | .repeatedConstraint name => "Constraint '" ++ String.ofList name ++ "' defined more than once"
  | .missingObjective => "No objective function provided"
  | .undeclared owner name =>
    owner.message ++ " uses undeclared variable '" ++ String.ofList name ++ "'"

/-- What has been accepted so far. -/
structure Assembly (α : Type) where
  declared : List Text := []
  /-- The column of each variable, under its name. -/
  index : List (Text × Nat) := []
  constraints : List (Constraint α) := []
  objective : Option (Objective α) := none
  deriving DecidableEq

namespace Assembly

variable {α : Type}

/-! ## Steps -/

/-- The column of a variable. -/
def column? (assembly : Assembly α) (name : Text) : Option Nat := assembly.index.lookup name

/-- Accepts a variable of a new name, which gets the next column. -/
def declare (t : Term α) : EStateM AssemblyFault (Assembly α) Unit := fun assembly =>
  if (assembly.column? t.name).isSome then
    .error (.repeatedVariable t.name) assembly
  else .ok () { assembly with
    declared := assembly.declared ++ [t.name]
    index := assembly.index ++ [(t.name, assembly.declared.length)] }

/-- Accepts a constraint of a new name: its slack is named after it. -/
def require (constraint : Constraint α) : EStateM AssemblyFault (Assembly α) Unit :=
  fun assembly =>
    if assembly.constraints.any (·.name == constraint.name) then
      .error (.repeatedConstraint constraint.name) assembly
    else .ok () { assembly with constraints := assembly.constraints ++ [constraint] }

/-- Takes an objective, in the place of any earlier one. -/
def target (objective : Objective α) : EStateM AssemblyFault (Assembly α) Unit :=
  fun assembly => .ok () { assembly with objective := some objective }

/-! ## Laying out -/

/-- The constraints that have a slack. -/
def inequalities (assembly : Assembly α) : List (Constraint α) :=
  assembly.constraints.filter fun c => c.relation != .equal

/-- The name of a constraint's slack. -/
def slackName (constraint : Text) : Text := ['s', 'l', 'a', 'c', 'k', '_'] ++ constraint

section Layout

variable [Zero α] [One α] [Neg α] [Add α]

/-- Adds the coefficients of a sum to the entries of a row, one term after the other. -/
def accumulate (assembly : Assembly α) (owner : Owner) :
    List α → List (Term α) → Except AssemblyFault (List α)
  | row, [] => .ok row
  | row, t :: rest =>
    match assembly.column? t.name with
    | none => .error (.undeclared owner t.name)
    | some j => accumulate assembly owner (row.modify j (· + t.coefficient)) rest

/-- The entries of a sum in the columns of the variables. -/
def entries (assembly : Assembly α) (owner : Owner) (terms : List (Term α)) :
    Except AssemblyFault (List α) :=
  accumulate assembly owner (List.replicate assembly.declared.length 0) terms

/-- The entry of a constraint in its slack column; an equation has none. -/
def slackSign? : Relation → Option α
  | .atMost => some 1
  | .atLeast => some (-1)
  | .equal => none

/-- The slack columns of the rows, of which there are `count` in all. The next inequality takes
the column `next`. -/
def slackRows (count : Nat) : Nat → List (Constraint α) → List (List α)
  | _, [] => []
  | next, c :: rest =>
    match slackSign? c.relation with
    | none => List.replicate count 0 :: slackRows count next rest
    | some entry => (List.replicate count 0).set next entry :: slackRows count (next + 1) rest

/-- The program that has been assembled. The sums of the constraints are laid out first and that
of the objective last, so the first undeclared variable in that order is the one reported. -/
def program (assembly : Assembly α) : Except AssemblyFault (Program α) :=
  match assembly.objective with
  | none => .error .missingObjective
  | some objective =>
    let count := assembly.inequalities.length
    match assembly.constraints.mapM fun c => assembly.entries (.constraint c.name) c.terms with
    | .error fault => .error fault
    | .ok rows =>
      match assembly.entries (.objective objective.name) objective.terms with
      | .error fault => .error fault
      | .ok costs => .ok {
          matrix := List.zipWith (· ++ ·) rows (slackRows count 0 assembly.constraints)
          bounds := assembly.constraints.map (·.constant)
          costs := costs ++ List.replicate count 0
          direction := objective.direction
          unknowns := assembly.declared
          slacks := assembly.inequalities.map fun c => slackName c.name }

/-- Makes the program and keeps the assembly. -/
def finish : EStateM AssemblyFault (Assembly α) (Program α) := fun assembly =>
  match assembly.program with
  | .ok p => .ok p assembly
  | .error fault => .error fault assembly

/-- The assembler of programs in standard form. -/
def assembler : Assembler (Assembly α) AssemblyFault (Program α) α where
  declare := declare
  require := require
  target := target
  finish := finish

end Layout

end Assembly

/-! ## Whole models and documents -/

/-- The report of a program that has been built. -/
def Program.summary {α : Type} (p : Program α) : Journal.Entry :=
  ⟨.debug, .assembly, "Built LP: " ++ toString p.rowCount ++ " rows, " ++
    toString p.unknowns.length ++ " variables + " ++ toString p.slacks.length ++ " slacks, " ++
    p.direction.label⟩

/-- The program of a model, assembled afresh. -/
def Model.program {α : Type} [Zero α] [One α] [Neg α] [Add α] (m : Model α) :
    Except AssemblyFault (Program α) :=
  match Assembly.assembler.feed m {} with
  | .ok p _ => .ok p
  | .error fault _ => .error fault

/-- What is reported when a program is asked for. -/
def Program.journal {ε : Type} (built : Except ε (Program Number)) : List Journal.Entry :=
  match built with
  | .ok p => [p.summary]
  | .error _ => []

/-- The program of a document. -/
def Document.program (policy : Policy) (text : Text) :
    Except (Failure AssemblyFault) (Program Number) :=
  match Assembly.assembler.feedDocument policy text {} with
  | .ok p _ => .ok p
  | .error failure _ => .error failure

/-- The program of a document, with all that is reported on the way. -/
def Document.programJournaled (policy : Policy) (text : Text) :
    Journaled (Except (Failure AssemblyFault) (Program Number)) :=
  ⟨program policy text, journal policy text ++ Program.journal (program policy text)⟩

end LinearProgram
