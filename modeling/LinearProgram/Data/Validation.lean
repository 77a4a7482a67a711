import LinearProgram.Data.Datum
import LinearProgram.Model

/-!
# Models from data

Data are checked against the shape of a model and converted. Nothing is given up at the first
mistake: a `Checked` value is either what was asked for or the list of all mistakes, each with the
place where it was made, in the order of the fields and depth first.

The conversions are lenient in one direction only: numbers may come as text or as truth values,
truth values as the numbers zero and one or as one of twelve words, but a text has to be a text.
Fields that nobody asks for are ignored. A model that has been made cannot be changed.
-/

namespace LinearProgram

/-- A step from a piece of data to one of its parts. -/
inductive Step where
  | field (name : Text)
  | index (position : Nat)
  deriving DecidableEq

/-- The kinds of mistakes. -/
inductive MistakeKind where
  | notARecord
  | missing
  | notAText
  | notANumber
  | unreadableNumber
  | notATruthValue
  | unreadableTruthValue
  | notAList
  | notARelation
  | unchangeable
  deriving DecidableEq

/-- A mistake in data: where, and of what kind. -/
structure Mistake where
  place : List Step
  kind : MistakeKind
  deriving DecidableEq

/-- The name of a kind of mistake. -/
def MistakeKind.label : MistakeKind → String
  | .notARecord => "model_type"
  | .missing => "missing"
  | .notAText => "string_type"
  | .notANumber => "float_type"
  | .unreadableNumber => "float_parsing"
  | .notATruthValue => "bool_type"
  | .unreadableTruthValue => "bool_parsing"
  | .notAList => "list_type"
  | .notARelation => "enum"
  | .unchangeable => "frozen_instance"

/-- What was asked for, or all mistakes. -/
abbrev Checked (α : Type) := Except (List Mistake) α

namespace Checked

/-- A single mistake, made right here. -/
def mistake {α : Type} (kind : MistakeKind) : Checked α := .error [⟨[], kind⟩]

/-- The same outcome, seen from one step further outside. -/
def inside {α : Type} (step : Step) : Checked α → Checked α
  | .ok value => .ok value
  | .error mistakes => .error (mistakes.map fun m => { m with place := step :: m.place })

/-- Both outcomes, with the mistakes of the first before those of the second. -/
def both {α β : Type} : Checked α → Checked β → Checked (α × β)
  | .ok a, .ok b => .ok (a, b)
  | .ok _, .error second => .error second
  | .error first, .ok _ => .error first
  | .error first, .error second => .error (first ++ second)

/-- All outcomes of a list, each seen from the list, whose first element has the given position. -/
def all {α : Type} : Nat → List (Checked α) → Checked (List α)
  | _, [] => .ok []
  | position, outcome :: rest =>
    (both (inside (.index position) outcome) (all (position + 1) rest)).map fun (a, b) => a :: b

end Checked

namespace Datum

open Checked

/-! ## Simple values -/

/-- A text. -/
def checkText : Datum → Checked Text
  | .text value => .ok value
  | _ => mistake .notAText

/-- A number: a number, a truth value or a text that denotes a number. An integer beyond the
greatest number is none. -/
def checkNumber : Datum → Checked Number
  | .number value => .ok value
  | .integer value =>
    let nearest := Number.ofRat value
    if nearest.isFinite then .ok nearest else mistake .notANumber
  | .bool value => .ok (if value then 1 else 0)
  | .text value =>
    match Number.read? value with
    | some x => .ok x
    | none => mistake .unreadableNumber
  | _ => mistake .notANumber

/-- The words for yes and for no. -/
def truthWords : List (String × Bool) :=
  [("0", false), ("off", false), ("f", false), ("false", false), ("n", false), ("no", false),
   ("1", true), ("on", true), ("t", true), ("true", true), ("y", true), ("yes", true)]

/-- The bound of machine integers. -/
def integerBound : Int := 9223372036854775808

/-- A truth value from an integer: zero or one. -/
def truthOfInteger (value : Int) : Checked Bool :=
  if value = 0 then .ok false else if value = 1 then .ok true else mistake .unreadableTruthValue

/-- A truth value: a truth value, the number zero or one, or a word in any case. What is no machine
integer is no truth value at all. -/
def checkTruth : Datum → Checked Bool
  | .bool value => .ok value
  | .text value =>
    match truthWords.find? (·.1 == String.ofList (value.map Char.toLower)) with
    | some (_, meant) => .ok meant
    | none => mistake .unreadableTruthValue
  | .integer value =>
    if -integerBound ≤ value && value < integerBound then truthOfInteger value
    else mistake .notATruthValue
  | .number value =>
    match value.toRat? with
    | none => mistake .notATruthValue
    | some exact =>
      if exact.den = 1 && -integerBound < exact.num && exact.num < integerBound then
        truthOfInteger exact.num
      else mistake .notATruthValue
  | _ => mistake .notATruthValue

/-- A relation, by its operator. -/
def checkRelation : Datum → Checked Relation
  | .text value =>
    match Relation.ofSymbol? value with
    | some relation => .ok relation
    | none => mistake .notARelation
  | _ => mistake .notARelation

/-! ## Records and lists -/

/-- A list whose elements are checked one by one. -/
def checkList {α : Type} (check : Datum → Checked α) : Datum → Checked (List α)
  | .list items => all 0 (items.map check)
  | _ => mistake .notAList

/-- A record, whose fields are checked together. -/
def checkRecord {α : Type} (check : List (Text × Datum) → Checked α) : Datum → Checked α
  | .record fields => check fields
  | _ => mistake .notARecord

/-- A field that has to be there. -/
def checkField {α : Type} (name : String) (check : Datum → Checked α)
    (fields : List (Text × Datum)) : Checked α :=
  inside (.field name.toList) <|
    match field? fields name.toList with
    | some value => check value
    | none => mistake .missing

/-- A field that is an empty list when it is not there. -/
def checkListField {α : Type} (name : String) (check : Datum → Checked α)
    (fields : List (Text × Datum)) : Checked (List α) :=
  match field? fields name.toList with
  | some value => inside (.field name.toList) (checkList check value)
  | none => .ok []

/-! ## Models -/

/-- A term. -/
def checkTerm : Datum → Checked (Term Number) := checkRecord fun fields =>
  (both (checkField "name" checkText fields) (checkField "coefficient" checkNumber fields)).map
    fun (name, coefficient) => ⟨name, coefficient⟩

/-- A constraint. -/
def checkConstraint : Datum → Checked (Constraint Number) := checkRecord fun fields =>
  (both (checkField "name" checkText fields)
    (both (checkField "terms" (checkList checkTerm) fields)
      (both (checkField "constant" checkNumber fields)
        (checkField "relation" checkRelation fields)))).map
    fun (name, terms, constant, relation) => ⟨name, terms, constant, relation⟩

/-- An objective. -/
def checkObjective : Datum → Checked (Objective Number) := checkRecord fun fields =>
  (both (checkField "name" checkText fields)
    (both (checkField "terms" (checkList checkTerm) fields)
      (checkField "maximize" checkTruth fields))).map
    fun (name, terms, maximize) => ⟨name, terms, if maximize then .maximize else .minimize⟩

/-- A model; variables and constraints may be left out. -/
def checkModel : Datum → Checked (Model Number) := checkRecord fun fields =>
  (both (checkListField "variables" checkTerm fields)
    (both (checkListField "constraints" checkConstraint fields)
      (checkField "objective" checkObjective fields))).map
    fun (declarations, constraints, objective) => ⟨declarations, constraints, objective⟩

end Datum

/-- The attempt to change a field of something that has been made from data. -/
def changeField {α : Type} (name : Text) : Checked α := .error [⟨[.field name], .unchangeable⟩]

end LinearProgram
