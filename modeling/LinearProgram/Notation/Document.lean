import LinearProgram.Notation.Policy
import LinearProgram.Notation.Statement

/-!
# Reading documents

A document is a sequence of statements, each ended by a semicolon. Reading goes through them once
and collects what they say in a `Draft`; comments leave no trace, and the order matters only among
statements of one kind. The first statement that cannot be read ends the reading.

`Document.read` is the whole of it. What is reported on the way is a function of its own,
`Document.journal`, so that the reading itself carries nothing but the draft.
-/

namespace LinearProgram

/-- The statements of a document: the pieces between semicolons, without the blanks at their ends
and without those that hold nothing else. -/
def Document.statements (text : Text) : List Text :=
  ((text.splitOn ';').map Text.trim).filter fun piece => !piece.isEmpty

/-- What has been read of a document so far. -/
structure Draft where
  declarations : List (Term Number) := []
  constraints : List (Constraint Number) := []
  objective : Option (Objective Number) := none
  deriving DecidableEq

namespace Draft

/-- Reads one more statement. A second objective is read before it is refused, so what is wrong
inside it is reported first. -/
def extend (policy : Policy) (draft : Draft) (s : Text) : Except Fault Draft :=
  match Statement.classify s with
  | .error fault => .error fault
  | .ok .comment => .ok draft
  | .ok .declaration =>
    match Statement.readDeclaration s with
    | .error fault => .error fault
    | .ok declared => .ok { draft with declarations := draft.declarations ++ [declared] }
  | .ok .constraint =>
    match Statement.readConstraint policy.strictOperators s with
    | .error fault => .error fault
    | .ok constraint => .ok { draft with constraints := draft.constraints ++ [constraint] }
  | .ok .objective =>
    match Statement.readObjective s with
    | .error fault => .error fault
    | .ok objective =>
      if draft.objective.isSome && policy.repeatedObjective = .refused then
        .error (Cause.repeatedObjective.inStatement s)
      else .ok { draft with objective := some objective }

/-- Reads statements one after the other, up to the first that cannot be read. -/
def extendAll (policy : Policy) : Draft → List Text → Except Fault Draft
  | draft, [] => .ok draft
  | draft, s :: rest =>
    match draft.extend policy s with
    | .error fault => .error fault
    | .ok next => next.extendAll policy rest

/-- The model, once there is an objective. -/
def finish (draft : Draft) : Except Fault (Model Number) :=
  match draft.objective with
  | some objective => .ok ⟨draft.declarations, draft.constraints, objective⟩
  | none => .error ⟨.noObjective, none⟩

/-- What is reported when a statement turns one draft into the next: an objective that takes the
place of another. -/
def replacement (s : Text) (before after : Draft) : List Journal.Entry :=
  match Statement.kind? s, before.objective, after.objective with
  | some .objective, some old, some new =>
    [⟨.debug, .reader, "Objective '" ++ String.ofList old.name ++ "' replaced by '" ++
      String.ofList new.name ++ "'"⟩]
  | _, _, _ => []

/-- What is reported while statements are read, up to the first that cannot be read. -/
def replacements (policy : Policy) : Draft → List Text → List Journal.Entry
  | _, [] => []
  | draft, s :: rest =>
    match draft.extend policy s with
    | .error _ => []
    | .ok next => replacement s draft next ++ next.replacements policy rest

@[simp] theorem extendAll_nil (policy : Policy) (draft : Draft) :
    draft.extendAll policy [] = .ok draft := rfl

/-- Reading two runs of statements is reading the second from where the first ends. -/
theorem extendAll_append (policy : Policy) (draft : Draft) (first second : List Text) :
    draft.extendAll policy (first ++ second) =
      match draft.extendAll policy first with
      | .error fault => .error fault
      | .ok next => next.extendAll policy second := by
  induction first generalizing draft with
  | nil => rfl
  | cons s rest ih =>
    simp only [List.cons_append, extendAll]
    cases draft.extend policy s with
    | error fault => rfl
    | ok next => exact ih next

end Draft

namespace Document

/-- Reads a document. -/
def read (policy : Policy) (text : Text) : Except Fault (Model Number) :=
  match Draft.extendAll policy {} (statements text) with
  | .error fault => .error fault
  | .ok draft => draft.finish

/-- The closing report of a reading that succeeded. -/
def summary (text : Text) (m : Model Number) : Journal.Entry :=
  ⟨.debug, .reader, "Parsed " ++ toString (statements text).length ++ " statements: " ++
    toString m.declarations.length ++ " variables, " ++ toString m.constraints.length ++
    " constraints, objective '" ++ String.ofList m.objective.name ++ "'"⟩

/-- What is reported while a document is read. -/
def journal (policy : Policy) (text : Text) : List Journal.Entry :=
  Draft.replacements policy {} (statements text) ++
    match read policy text with
    | .error _ => []
    | .ok m => [summary text m]

/-- Reads a document and reports. -/
def readJournaled (policy : Policy) (text : Text) : Journaled (Except Fault (Model Number)) :=
  ⟨read policy text, journal policy text⟩

end Document

end LinearProgram
