import LinearProgram.Proofs.Notation.Joining
import LinearProgram.Proofs.Notation.Writing

/-!
# Reading undoes writing

A `WrittenModel` is written by putting its statements into an order, which has to keep the order
among the declarations and among the constraints (`WrittenModel.Arranged`), with any blanks before
each statement and a semicolon after it (`writtenDocument`).

**What is written is read again** (`WrittenModel.read_writtenDocument`): under every policy, the
document is read as the model that is meant. The one condition is on names, because a statement that
mentions the mark of another kind may be taken for one of that kind (`WrittenModel.Unambiguous`).

The proof goes through the statements with a draft. One written statement adds to the draft what it
means (`Draft.extend_text`), and a run of them adds what they mean in order
(`Draft.extendAll_text`).
-/

namespace LinearProgram

open Statement

/-! ## Models and documents -/

/-- A model that is to be written. -/
structure WrittenModel where
  declared : List Name
  objective : WrittenObjective
  constraints : List WrittenConstraint

namespace WrittenStatement

/-- The variable that the statement declares. -/
def declared? : WrittenStatement → Option Name
  | declaration name => some name
  | objective _ | constraint _ => none

def objective? : WrittenStatement → Option WrittenObjective
  | objective o => some o
  | declaration _ | constraint _ => none

def constraint? : WrittenStatement → Option WrittenConstraint
  | constraint c => some c
  | declaration _ | objective _ => none

end WrittenStatement

/-- What a declaration of the name is read as. -/
def declaredTerm (name : Name) : Term Number := ⟨name.1, 0⟩

namespace WrittenModel

/-- The model that is meant. -/
def model (m : WrittenModel) : Model Number where
  declarations := m.declared.map declaredTerm
  constraints := m.constraints.map WrittenConstraint.constraint
  objective := m.objective.objective

/-- No name mentions the mark of a kind that comes before that of its statement. -/
structure Unambiguous (m : WrittenModel) : Prop where
  objective : ∀ name ∈ m.objective.names, ¬varKeyword <:+: name
  constraints : ∀ c ∈ m.constraints, ∀ name ∈ c.names,
    ¬varKeyword <:+: name ∧ ¬minimizeKeyword <:+: name ∧ ¬maximizeKeyword <:+: name

/-- The statements are those of the model, in any order that keeps the order within each kind. -/
structure Arranged (m : WrittenModel) (statements : List WrittenStatement) : Prop where
  declared : statements.filterMap WrittenStatement.declared? = m.declared
  objective : statements.filterMap WrittenStatement.objective? = [m.objective]
  constraints : statements.filterMap WrittenStatement.constraint? = m.constraints

/-- Every statement of an unambiguous model is unambiguous. -/
theorem Unambiguous.of_arranged {m : WrittenModel} {statements : List WrittenStatement}
    (hm : m.Unambiguous) (h : m.Arranged statements) : ∀ s ∈ statements, s.Unambiguous := by
  intro s hs
  cases s with
  | declaration name => trivial
  | objective o =>
    have ho : o ∈ statements.filterMap WrittenStatement.objective? :=
      List.mem_filterMap.2 ⟨_, hs, rfl⟩
    rw [h.objective, List.mem_singleton] at ho
    rw [ho]
    exact hm.objective
  | constraint c =>
    have hc : c ∈ statements.filterMap WrittenStatement.constraint? :=
      List.mem_filterMap.2 ⟨_, hs, rfl⟩
    rw [h.constraints] at hc
    exact hm.constraints c hc

end WrittenModel

/-- Statements as they are written, each behind blanks of its own and before a semicolon. -/
def writtenDocument (statements : List (Blanks × WrittenStatement)) (tail : Blanks) : Text :=
  (statements.flatMap fun (before, s) => before.1 ++ s.text ++ [';']) ++ tail.1

/-! ## Statements of a document -/

namespace Document

theorem statements_of_blank (tail : Blanks) : statements tail.1 = [] := by
  have hsemicolon : ';' ∉ tail.1 := not_mem_blanks_of_mem_punctuation (by decide) tail
  simp [statements, List.splitOn_eq_singleton hsemicolon, tail.2.trim_eq_nil]

theorem statements_written (before : Blanks) (s : WrittenStatement) :
    statements (before.1 ++ s.text) = [s.text] := by
  have hsemicolon : ';' ∉ before.1 ++ s.text := by
    rw [List.mem_append, not_or]
    exact ⟨not_mem_blanks_of_mem_punctuation (by decide) before,
      Text.not_mem_of_forall_true (by decide +kernel) s.isNotation⟩
  simp [statements, List.splitOn_eq_singleton hsemicolon, s.trimmed_text.trim_append_left before.2,
    s.text_ne_nil]

/-- The statements of a written document are those that have been written. -/
theorem statements_writtenDocument (statements : List (Blanks × WrittenStatement))
    (tail : Blanks) : Document.statements (writtenDocument statements tail) =
      (statements.map Prod.snd).map WrittenStatement.text := by
  induction statements with
  | nil => exact statements_of_blank tail
  | cons first rest ih =>
    obtain ⟨before, s⟩ := first
    have hcons : writtenDocument ((before, s) :: rest) tail =
        (before.1 ++ s.text) ++ ';' :: writtenDocument rest tail := by
      simp [writtenDocument]
    rw [hcons, statements_append_cons, statements_written, ih]
    rfl

end Document

/-! ## Reading -/

namespace Draft

variable {policy : Policy} {draft : Draft}

/-- The draft with what one more statement means. -/
def record (draft : Draft) : WrittenStatement → Draft
  | .declaration name =>
    { draft with declarations := draft.declarations ++ [declaredTerm name] }
  | .objective o => { draft with objective := some o.objective }
  | .constraint c => { draft with constraints := draft.constraints ++ [c.constraint] }

/-- **One written statement** is read as what it means. -/
theorem extend_text {s : WrittenStatement} (hs : s.Unambiguous)
    (hfree : s.kind = .objective → draft.objective = none) :
    draft.extend policy s.text = .ok (draft.record s) := by
  have hkind := WrittenStatement.kind?_text hs
  rw [extend_eq_ok_iff]
  cases s with
  | declaration name =>
    have hread : readDeclaration (WrittenStatement.declaration name).text =
        .ok (declaredTerm name) :=
      readDeclaration_eq_ok_iff.2
        ⟨declarationForm name, WrittenStatement.declarationForm_text name, rfl⟩
    exact .declaration hkind hread
  | objective o => exact .objective hkind o.readObjective_text fun _ => hfree rfl
  | constraint c => exact .constraint hkind (c.readConstraint_text policy.strictOperators)

/-- Every statement of a run adds to its own part of the draft. -/
theorem foldl_record (draft : Draft) (statements : List WrittenStatement) :
    statements.foldl record draft =
      { declarations := draft.declarations ++
          (statements.filterMap WrittenStatement.declared?).map declaredTerm
        constraints := draft.constraints ++
          (statements.filterMap WrittenStatement.constraint?).map WrittenConstraint.constraint
        objective := ((statements.filterMap WrittenStatement.objective?).getLast?.map
          WrittenObjective.objective).or draft.objective } := by
  induction statements generalizing draft with
  | nil => simp
  | cons s statements ih =>
    rw [List.foldl_cons, ih]
    cases s with
    | declaration name =>
      simp [List.filterMap_cons, record, WrittenStatement.declared?, WrittenStatement.objective?,
        WrittenStatement.constraint?]
    | objective o =>
      have hlast (rest : List WrittenObjective) (before : Option (Objective Number)) :
          ((o :: rest).getLast?.map WrittenObjective.objective).or before =
            (rest.getLast?.map WrittenObjective.objective).or (some o.objective) := by
        rw [List.getLast?_cons]
        cases rest.getLast? <;> rfl
      simp [List.filterMap_cons, record, WrittenStatement.declared?, WrittenStatement.objective?,
        WrittenStatement.constraint?, hlast]
    | constraint c =>
      simp [List.filterMap_cons, record, WrittenStatement.declared?, WrittenStatement.objective?,
        WrittenStatement.constraint?]

/-- **A run of written statements** is read as what they mean when there is no more than one
objective. -/
theorem extendAll_text {statements : List WrittenStatement}
    (hall : ∀ s ∈ statements, s.Unambiguous)
    (honce : draft.objective.toList.length +
      (statements.filterMap WrittenStatement.objective?).length ≤ 1) :
    draft.extendAll policy (statements.map WrittenStatement.text) =
      .ok (statements.foldl record draft) := by
  induction statements generalizing draft with
  | nil => rfl
  | cons s statements ih =>
    obtain ⟨hs, hrest⟩ := List.forall_mem_cons.1 hall
    have hstep : (s.kind = .objective → draft.objective = none) ∧
        (draft.record s).objective.toList.length +
          (statements.filterMap WrittenStatement.objective?).length ≤ 1 := by
      cases s with
      | declaration name => exact ⟨by simp [WrittenStatement.kind], honce⟩
      | objective o =>
        have hlength : draft.objective.toList.length +
            ((statements.filterMap WrittenStatement.objective?).length + 1) ≤ 1 := honce
        have hzero : draft.objective.toList.length = 0 := by omega
        refine ⟨fun _ => by simpa using hzero, ?_⟩
        simp only [record, Option.toList_some, List.length_singleton]
        omega
      | constraint c => exact ⟨by simp [WrittenStatement.kind], honce⟩
    rw [List.map_cons, extendAll, extend_text hs hstep.1]
    exact ih hrest hstep.2

end Draft

namespace WrittenModel

/-- **Reading undoes writing.** A model whose names are unambiguous is read again from its
statements in any arrangement, with any blanks between them, under every policy. -/
theorem read_writtenDocument (policy : Policy) {m : WrittenModel} (hm : m.Unambiguous)
    {statements : List (Blanks × WrittenStatement)} (h : m.Arranged (statements.map Prod.snd))
    (tail : Blanks) : Document.read policy (writtenDocument statements tail) = .ok m.model := by
  have honce : (({} : Draft).objective.toList.length +
      ((statements.map Prod.snd).filterMap WrittenStatement.objective?).length) ≤ 1 := by
    rw [h.objective]
    exact le_refl 1
  rw [Document.read, Document.statements_writtenDocument,
    Draft.extendAll_text (hm.of_arranged h) honce, Draft.foldl_record, h.declared, h.objective,
    h.constraints]
  rfl

/-- A model with every kind of relation but one, with signs, and with a name that mentions the mark
of its own kind. -/
def mixedModel : WrittenModel :=
  let x : Name := ⟨['x'], by decide +kernel⟩
  let y : Name := ⟨['y'], by decide +kernel⟩
  let one : Literal := ⟨['1'], none, by decide, Text.forall_of_all (by decide), by simp⟩
  let half : Literal := ⟨['2'], some ['5'], by decide, Text.forall_of_all (by decide),
    by rintro digits ⟨⟩; exact Text.forall_of_all (by decide)⟩
  { declared := [x, y]
    objective := ⟨.maximize, ⟨"minimized".toList, by decide +kernel⟩,
      [⟨true, some half, x⟩, ⟨false, none, y⟩], by simp⟩
    constraints := [⟨x, [⟨false, none, x⟩, ⟨true, some one, y⟩], by simp, .atMost, true, half⟩,
      ⟨y, [⟨true, none, y⟩], by simp, .equal, false, one⟩] }

/-- The statements of the model, with the objective among the declarations. -/
def mixedStatements : List (Blanks × WrittenStatement) :=
  let m := mixedModel
  (m.constraints.map fun c => (noBlanks, .constraint c)) ++
    (m.declared.take 1).map (fun name => (space.blanks, .declaration name)) ++
    (space.blanks, .objective m.objective) ::
    (m.declared.drop 1).map (fun name => (space.blanks, .declaration name))

theorem read_mixedStatements :
    mixedModel.Unambiguous ∧ mixedModel.Arranged (mixedStatements.map Prod.snd) ∧
      Document.read ⟨.refused, true⟩ (writtenDocument mixedStatements space.blanks) =
        .ok mixedModel.model := by
  have hm : mixedModel.Unambiguous := ⟨by decide +kernel, by decide +kernel⟩
  have h : mixedModel.Arranged (mixedStatements.map Prod.snd) := ⟨rfl, rfl, rfl⟩
  exact ⟨hm, h, read_writtenDocument ⟨.refused, true⟩ hm h space.blanks⟩

example : writtenDocument mixedStatements space.blanks =
    ("subject to x: x + -1*y <= -2.5;subject to y: -y == 1; var x; " ++
      "maximize minimized: -2.5*x + y; var y; ").toList := by decide +kernel

end WrittenModel

end LinearProgram
