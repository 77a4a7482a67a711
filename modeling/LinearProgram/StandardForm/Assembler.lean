import LinearProgram.Notation.Document

/-!
# Assembling models

An assembler receives the parts of a model one at a time and makes something of them: a program in
standard form (`LinearProgram.StandardForm.Assembly`) or anything else. It keeps a state, any of its
operations may fail, and a failed operation may have changed the state.

The parts arrive in a fixed order: the variables, the constraints, the objective, and then the
request to finish. `Model.calls` is that sequence as data, and `Assembler.observed` keeps a record
of the calls that an assembler receives.
-/

namespace LinearProgram

/-- The operations of an assembler with states `σ`, errors `ε` and results `ρ`. -/
structure Assembler (σ ε ρ α : Type) where
  declare : Term α → EStateM ε σ Unit
  require : Constraint α → EStateM ε σ Unit
  target : Objective α → EStateM ε σ Unit
  finish : EStateM ε σ ρ

/-- One call of an assembler. -/
inductive Call (α : Type) where
  | declare (declared : Term α)
  | require (constraint : Constraint α)
  | target (objective : Objective α)
  | finish
  deriving DecidableEq

/-- The calls that a model leads to when none of them fails. -/
def Model.calls {α : Type} (m : Model α) : List (Call α) :=
  m.declarations.map .declare ++
    (m.constraints.map .require ++ [.target m.objective, .finish])

namespace Assembler

variable {σ ε ρ α : Type}

/-- Makes one call; only the last kind of call has a result. -/
def perform (assembler : Assembler σ ε ρ α) : Call α → EStateM ε σ (Option ρ)
  | .declare t => do assembler.declare t; return none
  | .require c => do assembler.require c; return none
  | .target o => do assembler.target o; return none
  | .finish => do return some (← assembler.finish)

/-- The state after a session: calls in any order, continued after the ones that fail. -/
def afterCalls (assembler : Assembler σ ε ρ α) : σ → List (Call α) → σ
  | state, [] => state
  | state, call :: rest =>
    match assembler.perform call state with
    | .ok _ next => afterCalls assembler next rest
    | .error _ next => afterCalls assembler next rest

/-- Hands the parts of a model to an assembler, up to the first failure. -/
def feed (assembler : Assembler σ ε ρ α) (m : Model α) : EStateM ε σ ρ := do
  m.declarations.forM assembler.declare
  m.constraints.forM assembler.require
  assembler.target m.objective
  assembler.finish

/-- An operation that first notes the call and then does its work. -/
def noting (call : Call α) {β : Type} (operation : EStateM ε σ β) :
    EStateM ε (List (Call α) × σ) β := fun state =>
  match operation state.2 with
  | .ok result next => .ok result (state.1 ++ [call], next)
  | .error fault next => .error fault (state.1 ++ [call], next)

/-- The same assembler, which also keeps the calls that it has received, failed ones included. -/
def observed (assembler : Assembler σ ε ρ α) : Assembler (List (Call α) × σ) ε ρ α where
  declare declared := noting (.declare declared) (assembler.declare declared)
  require constraint := noting (.require constraint) (assembler.require constraint)
  target objective := noting (.target objective) (assembler.target objective)
  finish := noting .finish assembler.finish

/-- The assembler that accepts everything and makes nothing of it. -/
def accepting : Assembler Unit Empty Unit α where
  declare _ := pure ()
  require _ := pure ()
  target _ := pure ()
  finish := pure ()

end Assembler

/-- Why nothing has been made of a document: it cannot be read, or its model cannot be assembled. -/
inductive Failure (ε : Type) where
  | reading (fault : Fault)
  | assembling (fault : ε)
  deriving DecidableEq

namespace Assembler

variable {σ ε ρ : Type}

/-- Reads a document and hands its model to an assembler, which is not called at all when the
document cannot be read. -/
def feedDocument (assembler : Assembler σ ε ρ Number) (policy : Policy) (text : Text) :
    EStateM (Failure ε) σ ρ := fun state =>
  match Document.read policy text with
  | .error fault => .error (.reading fault) state
  | .ok m =>
    match assembler.feed m state with
    | .ok result next => .ok result next
    | .error fault next => .error (.assembling fault) next

end Assembler

end LinearProgram
