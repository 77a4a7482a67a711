import LinearProgram.Data.Validation
import LinearProgram.Proofs.Sequence

/-!
# Models and mistakes in data

**Accepted data** are those of which a model is made: records in which every field that is asked for
is there and is read as a part of the model (`Datum.IsModel`). Only the lists of variables and of
constraints may be left out, and then they are empty. Every model can be written as such data
(`Datum.ofModel`), and these give the model back (`Datum.checkModel_ofModel`).

**Mistakes.** Data of which no model is made have mistakes in them, and every mistake is where it is
said to be: at its place there is a value that is refused for this kind of mistake, or a record
without the field (`Mistake.LiesIn`). A check of a whole is put together from checks of its parts,
in records, in lists and in pairs, and each way of putting them together keeps this
(`Checked.Accurate`), whatever the parts are.

Main results: `Datum.checkModel_eq_ok_iff` and `Datum.accurate_checkModel`.
-/

namespace LinearProgram

open Checked

variable {α β : Type} {d part : Datum} {fields : List (Text × Datum)} {name : String}

namespace Datum

/-! ## Accepted data -/

section

variable {check : Datum → Checked α} {reads : Datum → α → Prop} {a : α} {list : List α}

/-- A list of items that are read one by one. -/
def Lists (reads : Datum → α → Prop) (d : Datum) (list : List α) : Prop :=
  ∃ items, d = .list items ∧ List.Forall₂ reads items list

/-- A field that is there and is read. -/
def HasField (reads : Datum → α → Prop) (name : String) (fields : List (Text × Datum)) (a : α) :
    Prop :=
  ∃ part, field? fields name.toList = some part ∧ reads part a

/-- A field with a list. If the list is empty it may be left out. -/
def HasListField (reads : Datum → α → Prop) (name : String) (fields : List (Text × Datum))
    (list : List α) : Prop :=
  HasField (Lists reads) name fields list ∨ field? fields name.toList = none ∧ list = []

theorem inside_eq_ok_iff {step : Step} {outcome : Checked α} :
    inside step outcome = .ok a ↔ outcome = .ok a := by
  cases outcome <;> simp [inside]

theorem both_eq_ok_iff {outcome : Checked α} {outcome' : Checked β} {pair : α × β} :
    both outcome outcome' = .ok pair ↔ outcome = .ok pair.1 ∧ outcome' = .ok pair.2 := by
  cases outcome <;> cases outcome' <;> simp [both, Prod.ext_iff]

theorem checkRecord_eq_ok_iff {check : List (Text × Datum) → Checked α} :
    checkRecord check d = .ok a ↔ ∃ fields, d = .record fields ∧ check fields = .ok a := by
  cases d <;> simp [checkRecord, mistake]

theorem checkField_eq_ok_iff (h : ∀ d a, check d = .ok a ↔ reads d a) :
    checkField name check fields = .ok a ↔ HasField reads name fields a := by
  rw [checkField, inside_eq_ok_iff, HasField]
  cases hfield : field? fields name.toList with
  | none => simp [mistake]
  | some part => simp [h]

theorem all_eq_ok_iff (h : ∀ d a, check d = .ok a ↔ reads d a) (position : Nat)
    (items : List Datum) :
    all position (items.map check) = .ok list ↔ List.Forall₂ reads items list := by
  induction items generalizing position list with
  | nil => rw [List.map_nil, all, Except.ok.injEq, List.forall₂_nil_left_iff, eq_comm]
  | cons item items ih =>
    rw [List.map_cons, all, map_eq_ok_iff, List.forall₂_cons_left_iff]
    constructor
    · rintro ⟨⟨a, rest⟩, hboth, rfl⟩
      obtain ⟨hitem, hrest⟩ := both_eq_ok_iff.1 hboth
      exact ⟨a, rest, (h _ _).1 (inside_eq_ok_iff.1 hitem), (ih (position + 1)).1 hrest, rfl⟩
    · rintro ⟨a, rest, hitem, hrest, rfl⟩
      exact ⟨(a, rest), both_eq_ok_iff.2
        ⟨inside_eq_ok_iff.2 ((h _ _).2 hitem), (ih (position + 1)).2 hrest⟩, rfl⟩

theorem checkList_eq_ok_iff (h : ∀ d a, check d = .ok a ↔ reads d a) (d : Datum)
    (list : List α) : checkList check d = .ok list ↔ Lists reads d list := by
  cases d with
  | list items =>
    rw [checkList, all_eq_ok_iff h]
    simp [Lists]
  | _ => simp [checkList, mistake, Lists]

theorem checkListField_eq_ok_iff (h : ∀ d a, check d = .ok a ↔ reads d a) :
    checkListField name check fields = .ok list ↔ HasListField reads name fields list := by
  rw [checkListField, HasListField, HasField]
  cases hfield : field? fields name.toList with
  | none => simp [eq_comm]
  | some part => simp [inside_eq_ok_iff, checkList_eq_ok_iff h]

end

theorem checkText_eq_ok_iff (d : Datum) (value : Text) :
    d.checkText = .ok value ↔ d = .text value := by
  cases d <;> simp [checkText, mistake]

theorem checkRelation_eq_ok_iff (d : Datum) (relation : Relation) :
    d.checkRelation = .ok relation ↔ d = .text relation.symbol := by
  constructor
  · intro h
    rw [checkRelation.eq_def] at h
    split at h
    · split at h
      · rename_i value _ hfound
        obtain rfl := Except.ok.inj h
        rw [Relation.symbol_of_ofSymbol? hfound]
      · simp [mistake] at h
    · simp [mistake] at h
  · rintro rfl
    rw [checkRelation, Relation.ofSymbol?_symbol]

/-- Data of which a term is made. -/
def IsTerm (d : Datum) (t : Term Number) : Prop :=
  ∃ fields, d = .record fields ∧
    HasField (fun part value => part = .text value) "name" fields t.name ∧
    HasField (fun part value => part.checkNumber = .ok value) "coefficient" fields t.coefficient

/-- Data of which a constraint is made. -/
def IsConstraint (d : Datum) (c : Constraint Number) : Prop :=
  ∃ fields, d = .record fields ∧
    HasField (fun part value => part = .text value) "name" fields c.name ∧
    HasField (Lists IsTerm) "terms" fields c.terms ∧
    HasField (fun part value => part.checkNumber = .ok value) "constant" fields c.constant ∧
    HasField (fun part relation => part = .text relation.symbol) "relation" fields c.relation

/-- Data of which an objective is made. -/
def IsObjective (d : Datum) (o : Objective Number) : Prop :=
  ∃ fields, d = .record fields ∧
    HasField (fun part value => part = .text value) "name" fields o.name ∧
    HasField (Lists IsTerm) "terms" fields o.terms ∧
    HasField (fun part value => part.checkTruth = .ok value) "maximize" fields
      (o.direction = .maximize)

/-- Data of which a model is made. -/
def IsModel (d : Datum) (m : Model Number) : Prop :=
  ∃ fields, d = .record fields ∧
    HasListField IsTerm "variables" fields m.declarations ∧
    HasListField IsConstraint "constraints" fields m.constraints ∧
    HasField IsObjective "objective" fields m.objective

theorem checkTerm_eq_ok_iff (d : Datum) (t : Term Number) : d.checkTerm = .ok t ↔ d.IsTerm t := by
  rw [checkTerm, checkRecord_eq_ok_iff, IsTerm]
  refine exists_congr fun fields => and_congr_right fun _ => map_eq_ok_iff.trans ?_
  simp only [← checkField_eq_ok_iff checkText_eq_ok_iff, ← checkField_eq_ok_iff fun _ _ => Iff.rfl]
  constructor
  · rintro ⟨pair, hpair, rfl⟩
    exact both_eq_ok_iff.1 hpair
  · intro h
    exact ⟨(t.name, t.coefficient), both_eq_ok_iff.2 h, rfl⟩

theorem checkConstraint_eq_ok_iff (d : Datum) (c : Constraint Number) :
    d.checkConstraint = .ok c ↔ d.IsConstraint c := by
  rw [checkConstraint, checkRecord_eq_ok_iff, IsConstraint]
  refine exists_congr fun fields => and_congr_right fun _ => map_eq_ok_iff.trans ?_
  simp only [← checkField_eq_ok_iff checkText_eq_ok_iff,
    ← checkField_eq_ok_iff (checkList_eq_ok_iff checkTerm_eq_ok_iff),
    ← checkField_eq_ok_iff checkRelation_eq_ok_iff, ← checkField_eq_ok_iff fun _ _ => Iff.rfl]
  constructor
  · rintro ⟨parts, hparts, rfl⟩
    simpa only [both_eq_ok_iff] using hparts
  · intro h
    exact ⟨(c.name, c.terms, c.constant, c.relation), by simpa only [both_eq_ok_iff] using h, rfl⟩

theorem checkObjective_eq_ok_iff (d : Datum) (o : Objective Number) :
    d.checkObjective = .ok o ↔ d.IsObjective o := by
  rw [checkObjective, checkRecord_eq_ok_iff, IsObjective]
  refine exists_congr fun fields => and_congr_right fun _ => map_eq_ok_iff.trans ?_
  simp only [← checkField_eq_ok_iff checkText_eq_ok_iff,
    ← checkField_eq_ok_iff (checkList_eq_ok_iff checkTerm_eq_ok_iff),
    ← checkField_eq_ok_iff fun _ _ => Iff.rfl]
  constructor
  · rintro ⟨⟨name, terms, maximize⟩, hparts, rfl⟩
    have hdirection : decide ((if maximize then Direction.maximize else .minimize) = .maximize) =
        maximize := by cases maximize <;> rfl
    simpa only [both_eq_ok_iff, hdirection] using hparts
  · intro h
    refine ⟨(o.name, o.terms, o.direction = .maximize), by simpa only [both_eq_ok_iff] using h, ?_⟩
    obtain ⟨name, terms, _ | _⟩ := o <;> rfl

/-- **Accepted data** are those of which a model is made, and it is this one. -/
theorem checkModel_eq_ok_iff (d : Datum) (m : Model Number) :
    d.checkModel = .ok m ↔ d.IsModel m := by
  rw [checkModel, checkRecord_eq_ok_iff, IsModel]
  refine exists_congr fun fields => and_congr_right fun _ => map_eq_ok_iff.trans ?_
  simp only [← checkListField_eq_ok_iff checkTerm_eq_ok_iff,
    ← checkListField_eq_ok_iff checkConstraint_eq_ok_iff,
    ← checkField_eq_ok_iff checkObjective_eq_ok_iff]
  constructor
  · rintro ⟨parts, hparts, rfl⟩
    simpa only [both_eq_ok_iff] using hparts
  · intro h
    exact ⟨(m.declarations, m.constraints, m.objective), by simpa only [both_eq_ok_iff] using h,
      rfl⟩

/-! ## Models as data -/

/-- A term as data. -/
def ofTerm (t : Term Number) : Datum :=
  .record [("name".toList, .text t.name), ("coefficient".toList, .number t.coefficient)]

/-- A constraint as data. -/
def ofConstraint (c : Constraint Number) : Datum :=
  .record [("name".toList, .text c.name), ("terms".toList, .list (c.terms.map ofTerm)),
    ("constant".toList, .number c.constant), ("relation".toList, .text c.relation.symbol)]

/-- An objective as data. -/
def ofObjective (o : Objective Number) : Datum :=
  .record [("name".toList, .text o.name), ("terms".toList, .list (o.terms.map ofTerm)),
    ("maximize".toList, .bool (o.direction = .maximize))]

/-- A model as data. -/
def ofModel (m : Model Number) : Datum :=
  .record [("variables".toList, .list (m.declarations.map ofTerm)),
    ("constraints".toList, .list (m.constraints.map ofConstraint)),
    ("objective".toList, ofObjective m.objective)]

/-- A list that is written item by item is read back. -/
theorem lists_map {reads : Datum → α → Prop} {write : α → Datum} (h : ∀ a, reads (write a) a)
    (list : List α) : Lists reads (.list (list.map write)) list :=
  ⟨_, rfl, by simpa [List.forall₂_map_left_iff, List.forall₂_same] using fun a _ => h a⟩

theorem isTerm_ofTerm (t : Term Number) : (ofTerm t).IsTerm t :=
  ⟨_, rfl, ⟨_, rfl, rfl⟩, ⟨_, rfl, rfl⟩⟩

theorem isConstraint_ofConstraint (c : Constraint Number) : (ofConstraint c).IsConstraint c :=
  ⟨_, rfl, ⟨_, rfl, rfl⟩, ⟨_, rfl, lists_map isTerm_ofTerm c.terms⟩, ⟨_, rfl, rfl⟩, ⟨_, rfl, rfl⟩⟩

theorem isObjective_ofObjective (o : Objective Number) : (ofObjective o).IsObjective o :=
  ⟨_, rfl, ⟨_, rfl, rfl⟩, ⟨_, rfl, lists_map isTerm_ofTerm o.terms⟩, ⟨_, rfl, rfl⟩⟩

theorem isModel_ofModel (m : Model Number) : (ofModel m).IsModel m :=
  ⟨_, rfl, Or.inl ⟨_, rfl, lists_map isTerm_ofTerm m.declarations⟩,
    Or.inl ⟨_, rfl, lists_map isConstraint_ofConstraint m.constraints⟩,
    ⟨_, rfl, isObjective_ofObjective m.objective⟩⟩

/-- **A model as data** is accepted, and read back. -/
theorem checkModel_ofModel (m : Model Number) : (ofModel m).checkModel = .ok m :=
  (checkModel_eq_ok_iff _ _).2 (isModel_ofModel m)

/-! ## Places -/

/-- The part of data at a place. -/
def at? : List Step → Datum → Option Datum
  | [], d => some d
  | .field name :: place, .record fields => (field? fields name).bind (at? place)
  | .index position :: place, .list items => items[position]?.bind (at? place)
  | _ :: _, _ => none

theorem at?_cons (step : Step) (place : List Step) (d : Datum) :
    d.at? (step :: place) = (d.at? [step]).bind (at? place) := by
  cases step <;> cases d <;> simp [at?]

/-- A value that is refused for a kind of mistake: where a simple value, a list or a record is asked
for, it is none. -/
inductive Refused : MistakeKind → Datum → Prop
  | text {kind : MistakeKind} {d : Datum} : d.checkText = mistake kind → Refused kind d
  | number {kind : MistakeKind} {d : Datum} : d.checkNumber = mistake kind → Refused kind d
  | truth {kind : MistakeKind} {d : Datum} : d.checkTruth = mistake kind → Refused kind d
  | relation {kind : MistakeKind} {d : Datum} : d.checkRelation = mistake kind → Refused kind d
  | list {d : Datum} : (∀ items, d ≠ .list items) → Refused .notAList d
  | record {d : Datum} : (∀ fields, d ≠ .record fields) → Refused .notARecord d

end Datum

/-- The mistake is in the data, at its place. -/
inductive Mistake.LiesIn (d : Datum) : Mistake → Prop
  | refused {place : List Step} {kind : MistakeKind} {part : Datum} :
      d.at? place = some part → part.Refused kind → LiesIn d ⟨place, kind⟩
  | missing {place : List Step} {fields : List (Text × Datum)} {name : Text} :
      d.at? place = some (.record fields) → Datum.field? fields name = none →
      LiesIn d ⟨place ++ [.field name], .missing⟩

/-- What is in a part is in the whole, one step further outside. -/
theorem Mistake.LiesIn.inside {m : Mistake} {step : Step} (h : m.LiesIn part)
    (hstep : d.at? [step] = some part) : Mistake.LiesIn d ⟨step :: m.place, m.kind⟩ := by
  have hplace (place : List Step) : d.at? (step :: place) = part.at? place := by
    rw [Datum.at?_cons, hstep, Option.bind_some]
  cases h with
  | refused hpart hrefused => exact .refused ((hplace _).trans hpart) hrefused
  | missing hrecord hfield => exact .missing ((hplace _).trans hrecord) hfield

/-! ## Checks -/

namespace Checked

/-- If there is no result there are mistakes, and all of them are in the data. -/
def Accurate (d : Datum) (outcome : Checked α) : Prop :=
  ∀ mistakes, outcome = .error mistakes → mistakes ≠ [] ∧ ∀ m ∈ mistakes, m.LiesIn d

theorem accurate_ok (a : α) : Accurate d (.ok a) := by
  intro mistakes h
  simp at h

theorem accurate_mistake {kind : MistakeKind} (h : d.Refused kind) :
    Accurate d (mistake kind : Checked α) := by
  intro mistakes herror
  obtain rfl : [⟨[], kind⟩] = mistakes := Except.error.inj herror
  exact ⟨by simp, by simpa using Mistake.LiesIn.refused rfl h⟩

theorem Accurate.map {outcome : Checked α} (h : Accurate d outcome) (f : α → β) :
    Accurate d (outcome.map f) := by
  cases outcome with
  | ok a => exact accurate_ok (f a)
  | error first =>
    intro mistakes herror
    obtain rfl : first = mistakes := Except.error.inj herror
    exact h first rfl

theorem Accurate.both {outcome : Checked α} {outcome' : Checked β} (h : Accurate d outcome)
    (h' : Accurate d outcome') : Accurate d (both outcome outcome') := by
  intro mistakes herror
  cases outcome with
  | ok a =>
    cases outcome' with
    | ok b => simp [Checked.both] at herror
    | error second =>
      obtain rfl : second = mistakes := Except.error.inj herror
      exact h' second rfl
  | error first =>
    cases outcome' with
    | ok b =>
      obtain rfl : first = mistakes := Except.error.inj herror
      exact h first rfl
    | error second =>
      obtain rfl : first ++ second = mistakes := Except.error.inj herror
      obtain ⟨hne, hfirst⟩ := h first rfl
      obtain ⟨-, hsecond⟩ := h' second rfl
      refine ⟨by simp [hne], fun m hm => ?_⟩
      exact (List.mem_append.1 hm).elim (hfirst m) (hsecond m)

theorem Accurate.inside {step : Step} {outcome : Checked α} (h : Accurate part outcome)
    (hstep : d.at? [step] = some part) : Accurate d (inside step outcome) := by
  intro mistakes herror
  cases outcome with
  | ok a => simp [Checked.inside] at herror
  | error first =>
    obtain rfl := Except.error.inj herror
    obtain ⟨hne, hfirst⟩ := h first rfl
    refine ⟨by simpa using hne, fun m hm => ?_⟩
    obtain ⟨m, hmem, rfl⟩ := List.mem_map.1 hm
    exact (hfirst m hmem).inside hstep

/-- The items of a list, of which some have been checked before. -/
theorem accurate_all {check : Datum → Checked α} (h : ∀ part, Accurate part (check part))
    (before items : List Datum) :
    Accurate (.list (before ++ items)) (all before.length (items.map check)) := by
  induction items generalizing before with
  | nil => exact accurate_ok []
  | cons item items ih =>
    have hitem : (Datum.list (before ++ item :: items)).at? [.index before.length] = some item := by
      simp [Datum.at?]
    have hrest := ih (before ++ [item])
    rw [List.append_assoc, List.singleton_append, List.length_append, List.length_singleton]
      at hrest
    exact (((h item).inside hitem).both hrest).map _

end Checked

namespace Datum

theorem accurate_checkList {check : Datum → Checked α} (h : ∀ part, Accurate part (check part))
    (d : Datum) : Accurate d (checkList check d) := by
  cases d with
  | list items => exact accurate_all h [] items
  | _ => exact accurate_mistake (.list (by simp))

theorem accurate_checkRecord {check : List (Text × Datum) → Checked α}
    (h : ∀ fields, Accurate (.record fields) (check fields)) (d : Datum) :
    Accurate d (checkRecord check d) := by
  cases d with
  | record fields => exact h fields
  | _ => exact accurate_mistake (.record (by simp))

theorem at?_field (h : field? fields name.toList = some part) :
    (Datum.record fields).at? [.field name.toList] = some part := by
  simp [at?, h]

theorem accurate_checkField {check : Datum → Checked α} (h : ∀ part, Accurate part (check part))
    (name : String) (fields : List (Text × Datum)) :
    Accurate (.record fields) (checkField name check fields) := by
  rw [checkField]
  cases hfield : field? fields name.toList with
  | some part => exact (h part).inside (at?_field hfield)
  | none =>
    intro mistakes herror
    obtain rfl : [⟨[.field name.toList], .missing⟩] = mistakes := Except.error.inj herror
    have hmissing : Mistake.LiesIn (.record fields) ⟨[] ++ [.field name.toList], .missing⟩ :=
      .missing rfl hfield
    exact ⟨by simp, by simpa using hmissing⟩

theorem accurate_checkListField {check : Datum → Checked α}
    (h : ∀ part, Accurate part (check part)) (name : String) (fields : List (Text × Datum)) :
    Accurate (.record fields) (checkListField name check fields) := by
  rw [checkListField]
  cases hfield : field? fields name.toList with
  | some part => exact (accurate_checkList h part).inside (at?_field hfield)
  | none => exact accurate_ok []

/-! ## Values and models -/

/-- A result, or a single mistake right here. -/
def Simple (outcome : Checked α) : Prop := (∃ a, outcome = .ok a) ∨ ∃ kind, outcome = mistake kind

theorem simple_ok (a : α) : Simple (.ok a) := Or.inl ⟨a, rfl⟩

theorem simple_mistake (kind : MistakeKind) : Simple (mistake kind : Checked α) :=
  Or.inr ⟨kind, rfl⟩

theorem Simple.accurate {outcome : Checked α} (h : Simple outcome)
    (hrefused : ∀ kind, outcome = mistake kind → d.Refused kind) : Accurate d outcome := by
  rcases h with ⟨a, rfl⟩ | ⟨kind, rfl⟩
  · exact accurate_ok a
  · exact accurate_mistake (hrefused kind rfl)

theorem accurate_checkText (d : Datum) : Accurate d (checkText d) := by
  refine Simple.accurate ?_ fun _ => .text
  cases d with
  | text value => exact simple_ok value
  | _ => exact simple_mistake .notAText

theorem accurate_checkNumber (d : Datum) : Accurate d (checkNumber d) := by
  refine Simple.accurate ?_ fun _ => .number
  rw [checkNumber.eq_def]
  split
  · exact simple_ok _
  · dsimp only
    split
    · exact simple_ok _
    · exact simple_mistake _
  · exact simple_ok _
  · split
    · exact simple_ok _
    · exact simple_mistake _
  · exact simple_mistake _

theorem simple_truthOfInteger (value : Int) : Simple (truthOfInteger value) := by
  rw [truthOfInteger]
  split
  · exact simple_ok _
  · split
    · exact simple_ok _
    · exact simple_mistake _

theorem accurate_checkTruth (d : Datum) : Accurate d (checkTruth d) := by
  refine Simple.accurate ?_ fun _ => .truth
  rw [checkTruth.eq_def]
  split
  · exact simple_ok _
  · split
    · exact simple_ok _
    · exact simple_mistake _
  · split
    · exact simple_truthOfInteger _
    · exact simple_mistake _
  · split
    · exact simple_mistake _
    · split
      · exact simple_truthOfInteger _
      · exact simple_mistake _
  · exact simple_mistake _

theorem accurate_checkRelation (d : Datum) : Accurate d (checkRelation d) := by
  refine Simple.accurate ?_ fun _ => .relation
  rw [checkRelation.eq_def]
  split
  · split
    · exact simple_ok _
    · exact simple_mistake _
  · exact simple_mistake _

theorem accurate_checkTerm : ∀ d, Accurate d (checkTerm d) :=
  accurate_checkRecord fun fields =>
    ((accurate_checkField accurate_checkText "name" fields).both
      (accurate_checkField accurate_checkNumber "coefficient" fields)).map _

theorem accurate_checkConstraint : ∀ d, Accurate d (checkConstraint d) :=
  accurate_checkRecord fun fields =>
    ((accurate_checkField accurate_checkText "name" fields).both
      ((accurate_checkField (accurate_checkList accurate_checkTerm) "terms" fields).both
        ((accurate_checkField accurate_checkNumber "constant" fields).both
          (accurate_checkField accurate_checkRelation "relation" fields)))).map _

theorem accurate_checkObjective : ∀ d, Accurate d (checkObjective d) :=
  accurate_checkRecord fun fields =>
    ((accurate_checkField accurate_checkText "name" fields).both
      ((accurate_checkField (accurate_checkList accurate_checkTerm) "terms" fields).both
        (accurate_checkField accurate_checkTruth "maximize" fields))).map _

/-- **The mistakes in a model** are where they are said to be. -/
theorem accurate_checkModel : ∀ d, Accurate d (checkModel d) :=
  accurate_checkRecord fun fields =>
    ((accurate_checkListField accurate_checkTerm "variables" fields).both
      ((accurate_checkListField accurate_checkConstraint "constraints" fields).both
        (accurate_checkField accurate_checkObjective "objective" fields))).map _

end Datum

end LinearProgram
