import LinearProgram.Journal
import LinearProgram.Text.Quoted

/-!
# How documents are read

Two switches: what a second objective does, and whether operators are read strictly. By default
the last objective counts and operators are read leniently.
-/

namespace LinearProgram

/-- What a second objective in a document does. -/
inductive RepeatedObjective where
  /-- It takes the place of the one before. -/
  | replaces
  /-- It is an error. -/
  | refused
  deriving DecidableEq

/-- How documents are read. -/
structure Policy where
  repeatedObjective : RepeatedObjective := .replaces
  strictOperators : Bool := false
  deriving DecidableEq

namespace RepeatedObjective

/-- The setting's name. -/
def label : RepeatedObjective → String
  | .replaces => "last_wins"
  | .refused => "error"

/-- The setting of the given name. -/
def ofLabel? (name : Text) : Option RepeatedObjective :=
  [replaces, refused].find? fun setting => setting.label == String.ofList name

end RepeatedObjective

namespace Policy

/-- A setting that has no meaning. -/
inductive Fault where
  | unknownRepeatedObjective (value : Text)
  | unknownStrictness (value : Text)
  deriving DecidableEq

/-- What is said of a setting that has no meaning. -/
def Fault.message : Fault → String
  | .unknownRepeatedObjective value =>
    "Invalid duplicate_objective policy: " ++ quoted value ++ " (must be 'last_wins' or 'error')"
  | .unknownStrictness value => "Invalid LPPARSE_STRICT_RELATIONS value: " ++ quoted value

/-- The policy with the named setting for repeated objectives. -/
def ofLabels (repeatedObjective : Text) (strictOperators : Bool) : Except Fault Policy :=
  match RepeatedObjective.ofLabel? repeatedObjective with
  | some setting => .ok ⟨setting, strictOperators⟩
  | none => .error (.unknownRepeatedObjective repeatedObjective)

/-- The policy as it is reported. -/
def describe (policy : Policy) : String :=
  "ParserConfig(duplicate_objective='" ++ policy.repeatedObjective.label ++
    "', strict_relations=" ++ (if policy.strictOperators then "True" else "False") ++ ")"

end Policy

end LinearProgram
