import LinearProgram.Proofs.Notation.Kind

/-!
# Writing statements

What is to be written is given by names and literals rather than by texts and numbers: a
`WrittenTerm` is a name with a literal and a sign, and a `WrittenStatement` declares a variable or
holds an objective or a constraint. Its text has one space where the notation asks for blanks:

```
var x
maximize f: -2.5*x + 3*y
subject to c: x + -1*y <= -4
```

**Reading a written statement** gives what it means (`WrittenObjective.readObjective_text`,
`WrittenConstraint.readConstraint_text`), and a statement is of its own kind when no name in it
mentions the mark of a kind that comes before (`WrittenStatement.kind?_text`).
-/

namespace LinearProgram

open Statement

/-! ## Signs and spaces -/

/-- One space. -/
def space : Gap := ⟨[' '], by simp, Text.forall_of_all (by decide)⟩

/-- A gap where blanks may stand, but need not. -/
def Gap.blanks (gap : Gap) : Blanks := ⟨gap.1, gap.2.2⟩

/-- A minus sign, or nothing. -/
def signText (minus : Bool) : Text := if minus then ['-'] else []

/-- The number with the sign. -/
def applySign (minus : Bool) (value : Number) : Number := if minus then -value else value

/-- The sign in a form. -/
def signForm (minus : Bool) : Option Blanks := if minus then some noBlanks else none

theorem minusText_signForm (minus : Bool) : minusText (signForm minus) = signText minus := by
  cases minus <;> rfl

theorem signed_signForm (minus : Bool) (value : Number) :
    signed (signForm minus) value = applySign minus value := by
  cases minus <;> rfl

/-! ## Sums -/

/-- A term that is to be written: a name, a sign, and a literal unless the coefficient is one. -/
structure WrittenTerm where
  minus : Bool
  factor : Option Literal
  name : Name

namespace WrittenTerm

/-- The term as it is written. -/
def text (t : WrittenTerm) : Text :=
  signText t.minus ++
    match t.factor with
    | none => t.name.1
    | some literal => literal.text ++ '*' :: t.name.1

/-- The coefficient that is written. -/
def coefficient (t : WrittenTerm) : Number :=
  applySign t.minus <|
    match t.factor with
    | none => 1
    | some literal => literal.value

/-- The term that is meant. -/
def term (t : WrittenTerm) : Term Number := ⟨t.name.1, t.coefficient⟩

/-- The form of the term, with blanks around it. -/
def form (t : WrittenTerm) (before after : Blanks) : TermForm where
  before := before
  minus := signForm t.minus
  factor := t.factor.map fun literal => ⟨literal, noBlanks, noBlanks⟩
  name := t.name
  after := after

theorem form_core (t : WrittenTerm) (before after : Blanks) :
    (t.form before after).core = t.text := by
  obtain ⟨minus, factor, name⟩ := t
  cases factor with
  | none => simp [form, text, TermForm.core, factorText, minusText_signForm]
  | some literal => simp [form, text, TermForm.core, factorText, minusText_signForm, noBlanks]

theorem form_text (t : WrittenTerm) (before after : Blanks) :
    (t.form before after).text = before.1 ++ t.text ++ after.1 := by
  rw [TermForm.text, form_core]
  rfl

theorem form_term (t : WrittenTerm) (before after : Blanks) :
    (t.form before after).term = t.term := by
  obtain ⟨minus, factor, name⟩ := t
  cases factor with
  | none => simp [form, term, coefficient, TermForm.term, factorValue, signed_signForm]
  | some literal => simp [form, term, coefficient, TermForm.term, factorValue, signed_signForm]

theorem trimmed_text (t : WrittenTerm) : Text.Trimmed t.text := by
  rw [← t.form_core noBlanks noBlanks]
  exact TermForm.trimmed_core _

theorem text_ne_nil (t : WrittenTerm) : t.text ≠ [] := by
  rw [← t.form_core noBlanks noBlanks]
  exact TermForm.core_ne_nil _

end WrittenTerm

/-- A sum as it is written: its terms with a plus sign between two spaces. -/
def writtenSum (terms : List WrittenTerm) : Text :=
  [' ', '+', ' '].intercalate (terms.map WrittenTerm.text)

theorem writtenSum_cons_cons (t next : WrittenTerm) (terms : List WrittenTerm) :
    writtenSum (t :: next :: terms) =
      t.text ++ ([' ', '+', ' '] ++ writtenSum (next :: terms)) := by
  simp [writtenSum, List.intercalate_cons_cons]

/-- The spaces around a plus sign belong to the terms on both sides. -/
theorem exists_forms_writtenSum (before after : Blanks) {terms : List WrittenTerm}
    (h : terms ≠ []) :
    ∃ forms, forms ≠ [] ∧ sumText forms = before.1 ++ writtenSum terms ++ after.1 ∧
      forms.map TermForm.term = terms.map WrittenTerm.term := by
  induction terms generalizing before with
  | nil => exact absurd rfl h
  | cons t terms ih =>
    cases terms with
    | nil =>
      refine ⟨[t.form before after], by simp, ?_, by simp [t.form_term]⟩
      simp [sumText, writtenSum, t.form_text]
    | cons next terms =>
      obtain ⟨forms, hne, htext, hterms⟩ := ih space.blanks (by simp)
      obtain ⟨first, forms, rfl⟩ := List.exists_cons_of_ne_nil hne
      refine ⟨t.form before space.blanks :: first :: forms, by simp, ?_, ?_⟩
      · have hcons (f : TermForm) : sumText (f :: first :: forms) =
            f.text ++ ['+'] ++ sumText (first :: forms) := List.intercalate_cons_cons
        rw [hcons, htext, t.form_text, writtenSum_cons_cons]
        simp [Gap.blanks, space]
      · rw [List.map_cons, hterms, t.form_term]
        rfl

theorem readTerms_writtenSum (before after : Blanks) {terms : List WrittenTerm} (h : terms ≠ []) :
    readTerms none (before.1 ++ writtenSum terms ++ after.1) = .ok (terms.map WrittenTerm.term) :=
  readTerms_eq_ok_iff.2 (exists_forms_writtenSum before after h)

theorem writtenSum_ne_nil {terms : List WrittenTerm} (h : terms ≠ []) : writtenSum terms ≠ [] := by
  obtain ⟨t, terms, rfl⟩ := List.exists_cons_of_ne_nil h
  cases terms with
  | nil => simpa [writtenSum] using t.text_ne_nil
  | cons next terms => simp [writtenSum_cons_cons]

theorem trimmed_writtenSum (terms : List WrittenTerm) : Text.Trimmed (writtenSum terms) := by
  induction terms with
  | nil => exact Text.trim_nil
  | cons t terms ih =>
    cases terms with
    | nil => simpa [writtenSum] using t.trimmed_text
    | cons next terms =>
      have := t.trimmed_text.append t.text_ne_nil ih (writtenSum_ne_nil (by simp)) [' ', '+', ' ']
      rwa [List.append_assoc, ← writtenSum_cons_cons] at this

/-! ## Objectives -/

/-- An objective that is to be written. -/
structure WrittenObjective where
  direction : Direction
  name : Name
  terms : List WrittenTerm
  terms_ne_nil : terms ≠ []

namespace WrittenObjective

/-- The objective as it is written. -/
def text (o : WrittenObjective) : Text :=
  keyword o.direction ++ ' ' :: o.name.1 ++ ':' :: ' ' :: writtenSum o.terms

/-- The objective that is meant. -/
def objective (o : WrittenObjective) : Objective Number :=
  ⟨o.name.1, o.terms.map WrittenTerm.term, o.direction⟩

/-- The names in the objective. -/
def names (o : WrittenObjective) : List Text := o.name.1 :: o.terms.map (·.name.1)

/-- The form of the objective. -/
def form (o : WrittenObjective) : ObjectiveForm where
  before := noBlanks
  direction := o.direction
  title := ⟨space, o.name, noBlanks⟩
  sum := ' ' :: writtenSum o.terms
  terms := o.terms.map WrittenTerm.term
  sum_reads := by
    simpa [noBlanks, Gap.blanks, space] using
      readTerms_writtenSum space.blanks noBlanks o.terms_ne_nil

theorem form_text (o : WrittenObjective) : o.form.text = o.text := by
  simp [form, text, ObjectiveForm.text, ObjectiveForm.heading, Title.text, noBlanks, space]

theorem readObjective_text (o : WrittenObjective) : readObjective o.text = .ok o.objective :=
  readObjective_eq_ok_iff.2 ⟨o.form, o.form_text, rfl⟩

theorem trimmed_text (o : WrittenObjective) : Text.Trimmed o.text := by
  have := (trimmed_keyword o.direction).append (keyword_ne_nil _) (trimmed_writtenSum o.terms)
    (writtenSum_ne_nil o.terms_ne_nil) (' ' :: o.name.1 ++ [':', ' '])
  simpa [text] using this

/-- Keywords and names are all the words of an objective. -/
theorem varKeyword_infix_text_iff (o : WrittenObjective) :
    varKeyword <:+: o.text ↔ ∃ name ∈ o.names, varKeyword <:+: name := by
  have hkeyword : ¬varKeyword <:+: keyword o.direction := by
    cases o.direction <;> decide
  rw [← o.form_text, o.form.infix_text_iff word_varKeyword]
  simp [form, names, hkeyword, WrittenTerm.term]

end WrittenObjective

/-! ## Constraints -/

/-- A constraint that is to be written. -/
structure WrittenConstraint where
  name : Name
  terms : List WrittenTerm
  terms_ne_nil : terms ≠ []
  relation : Relation
  minus : Bool
  literal : Literal

namespace WrittenConstraint

/-- The constraint as it is written. -/
def text (c : WrittenConstraint) : Text :=
  subjectToMark ++ ' ' :: c.name.1 ++ ':' :: ' ' :: writtenSum c.terms ++
    ' ' :: c.relation.symbol ++ ' ' :: signText c.minus ++ c.literal.text

/-- The constraint that is meant. -/
def constraint (c : WrittenConstraint) : Constraint Number :=
  ⟨c.name.1, c.terms.map WrittenTerm.term, applySign c.minus c.literal.value, c.relation⟩

/-- The names in the constraint. -/
def names (c : WrittenConstraint) : List Text := c.name.1 :: c.terms.map (·.name.1)

theorem sum_reads (c : WrittenConstraint) :
    readTerms none (' ' :: writtenSum c.terms ++ [' ']) = .ok (c.terms.map WrittenTerm.term) :=
  readTerms_writtenSum space.blanks space.blanks c.terms_ne_nil

/-- The form of the constraint. -/
def form (c : WrittenConstraint) : ConstraintForm where
  before := noBlanks
  subjectGap := space
  title := ⟨space, c.name, noBlanks⟩
  sum := ' ' :: writtenSum c.terms ++ [' ']
  terms := c.terms.map WrittenTerm.term
  sum_reads := c.sum_reads
  sum_free := isOperatorChar_of_readTerms c.sum_reads
  operator := c.relation.symbol
  operator_ne_nil := by cases c.relation <;> decide
  operator_chars := by cases c.relation <;> exact Text.forall_of_all (by decide)
  gap := space.blanks
  minus := signForm c.minus
  literal := c.literal
  after := noBlanks

theorem form_text (c : WrittenConstraint) : c.form.text = c.text := by
  simp [form, text, ConstraintForm.text, ConstraintForm.heading, ConstraintForm.comparison,
    ConstraintForm.constantText, Title.text, noBlanks, Gap.blanks, space, minusText_signForm,
    subjectToMark]

theorem form_constraint (c : WrittenConstraint) : c.form.constraint = c.constraint := by
  have hrelation : c.form.relation = c.relation := by
    rw [← c.form.ofToken_operator]
    exact Relation.ofToken_symbol c.relation
  rw [ConstraintForm.constraint, hrelation]
  simp [form, constraint, signed_signForm]

/-- The operators that are written are admitted also where operators are read strictly. -/
theorem form_admitted (strict : Bool) (c : WrittenConstraint) : c.form.Admitted strict := by
  intro _
  show c.relation.symbol ∈ strictOperators
  cases c.relation <;> decide

theorem readConstraint_text (strict : Bool) (c : WrittenConstraint) :
    readConstraint strict c.text = .ok c.constraint :=
  readConstraint_eq_ok_iff.2 ⟨c.form, c.form_admitted strict, c.form_text, c.form_constraint⟩

theorem trimmed_text (c : WrittenConstraint) : Text.Trimmed c.text := by
  have hsubject : Text.Trimmed subjectToMark := by unfold Text.Trimmed; decide
  have := hsubject.append (by decide) c.literal.trimmed_text c.literal.text_ne_nil
    (' ' :: c.name.1 ++ ':' :: ' ' :: writtenSum c.terms ++ ' ' :: c.relation.symbol ++
      ' ' :: signText c.minus)
  simpa [text] using this

/-- Keywords and names are all the words of a constraint. -/
theorem infix_text_iff {w : Text} (hw : Word w) (hsubject : ¬w <:+: subjectKeyword)
    (hto : ¬w <:+: toKeyword) (c : WrittenConstraint) :
    w <:+: c.text ↔ ∃ name ∈ c.names, w <:+: name := by
  rw [← c.form_text, c.form.infix_text_iff hw]
  simp [form, names, hsubject, hto, WrittenTerm.term]

end WrittenConstraint

/-! ## Statements -/

/-- A statement that is to be written. -/
inductive WrittenStatement where
  | declaration (name : Name)
  | objective (o : WrittenObjective)
  | constraint (c : WrittenConstraint)

/-- The form of a written declaration. -/
def declarationForm (name : Name) : DeclarationForm := ⟨noBlanks, space, name, noBlanks⟩

namespace WrittenStatement

/-- The statement as it is written. -/
def text : WrittenStatement → Text
  | declaration name => varKeyword ++ ' ' :: name.1
  | objective o => o.text
  | constraint c => c.text

/-- The kind that the statement is meant to have. -/
def kind : WrittenStatement → Kind
  | declaration _ => .declaration
  | objective _ => .objective
  | constraint _ => .constraint

/-- No name in the statement mentions the mark of a kind that comes before that of the statement. -/
def Unambiguous : WrittenStatement → Prop
  | declaration _ => True
  | objective o => ∀ name ∈ o.names, ¬varKeyword <:+: name
  | constraint c => ∀ name ∈ c.names, ¬varKeyword <:+: name ∧ ¬minimizeKeyword <:+: name ∧
      ¬maximizeKeyword <:+: name

theorem declarationForm_text (name : Name) :
    (declarationForm name).text = (declaration name).text := by
  simp [declarationForm, text, DeclarationForm.text, DeclarationForm.core, noBlanks, space]

/-- A written statement consists of characters of the notation. -/
theorem isNotation (s : WrittenStatement) : ∀ c ∈ s.text, isNotation c = true := by
  cases s with
  | declaration name =>
    rw [← declarationForm_text]
    exact (declarationForm name).isNotation
  | objective o =>
    rw [text, ← o.form_text]
    exact o.form.isNotation
  | constraint c =>
    rw [text, ← c.form_text]
    exact c.form.isNotation

theorem trimmed_text (s : WrittenStatement) : Text.Trimmed s.text := by
  cases s with
  | declaration name =>
    simpa [text] using trimmed_varKeyword.append (by decide) name.trimmed name.ne_nil [' ']
  | objective o => exact o.trimmed_text
  | constraint c => exact c.trimmed_text

theorem text_ne_nil (s : WrittenStatement) : s.text ≠ [] := by
  cases s <;> simp [text, WrittenObjective.text, WrittenConstraint.text]

/-- **A written statement is of its own kind** when its names allow that. -/
theorem kind?_text {s : WrittenStatement} (h : s.Unambiguous) : kind? s.text = some s.kind := by
  cases s with
  | declaration name =>
    rw [← declarationForm_text]
    exact (declarationForm name).kind?_text
  | objective o =>
    have hvar : ¬varKeyword <:+: o.form.text := by
      rw [o.form_text, o.varKeyword_infix_text_iff]
      rintro ⟨name, hname, hmention⟩
      exact h name hname hmention
    rw [text, ← o.form_text]
    exact o.form.kind?_text hvar
  | constraint c =>
    have hnone {w : Text} (hw : Word w) (hsubject : ¬w <:+: subjectKeyword)
        (hto : ¬w <:+: toKeyword) (hnames : ∀ name ∈ c.names, ¬w <:+: name) :
        ¬w <:+: c.form.text := by
      rw [c.form_text, c.infix_text_iff hw hsubject hto]
      rintro ⟨name, hname, hmention⟩
      exact hnames name hname hmention
    have hvar := hnone word_varKeyword (by decide) (by decide) fun name hname =>
      (h name hname).1
    have hminimize := hnone word_minimizeKeyword (by decide) (by decide) fun name hname =>
      (h name hname).2.1
    have hmaximize := hnone word_maximizeKeyword (by decide) (by decide) fun name hname =>
      (h name hname).2.2
    rw [text, ← c.form_text, c.form.kind?_text hvar hminimize hmaximize]
    rfl

end WrittenStatement

end LinearProgram
