import LinearProgram.Proofs.Notation.Mention

/-!
# Kinds of readable statements

The kind of a statement and its reader are two tests of their own: the kind looks for marks
anywhere in the text, in an order of precedence, and the reader follows a grammar. This module says
how far they agree (`classify_of_readable`).

**Declarations** that can be read are of their kind, and so are **objectives** unless they mention
the mark of declarations.

**Constraints** that mention no other mark are of their kind only when a single space stands between
the two words of their keyword. The reader takes any blanks there, and with other blanks the
statement is of no kind (`not_forall_readable_constraint_classified`).
-/

namespace LinearProgram

namespace Statement

variable {s : Text}

/-- The kind of a text without a number sign. -/
theorem kind?_of_hash_not_mem (h : '#' ∉ s) : kind? s =
    if varKeyword <:+: s then some .declaration
    else if minimizeKeyword <:+: s ∨ maximizeKeyword <:+: s then some .objective
    else if subjectToMark <:+: s then some .constraint
    else none := by
  have hhash : s.contains '#' = false := by simpa using h
  simp only [kind?, hhash, Bool.false_eq_true, if_false, Bool.or_eq_true, Text.mentions_iff]

/-! ## The forms -/

theorem DeclarationForm.kind?_text (f : DeclarationForm) : kind? f.text = some .declaration := by
  have hvar : varKeyword <:+: f.text :=
    ⟨f.before.1, f.gap.1 ++ f.name.1 ++ f.after.1, by simp [text, core]⟩
  rw [kind?_of_hash_not_mem (Text.not_mem_of_forall_true (by decide +kernel) f.isNotation),
    if_pos hvar]

theorem ObjectiveForm.kind?_text (f : ObjectiveForm) (hvar : ¬varKeyword <:+: f.text) :
    kind? f.text = some .objective := by
  have hkeyword : keyword f.direction <:+: f.text :=
    ⟨f.before.1, f.title.text ++ f.sum, by simp [text, heading]⟩
  have hor : minimizeKeyword <:+: f.text ∨ maximizeKeyword <:+: f.text := by
    cases hdirection : f.direction with
    | minimize => exact Or.inl (by rwa [hdirection] at hkeyword)
    | maximize => exact Or.inr (by rwa [hdirection] at hkeyword)
  rw [kind?_of_hash_not_mem (Text.not_mem_of_forall_true (by decide +kernel) f.isNotation),
    if_neg hvar, if_pos hor]

theorem ConstraintForm.kind?_text (f : ConstraintForm) (hvar : ¬varKeyword <:+: f.text)
    (hminimize : ¬minimizeKeyword <:+: f.text) (hmaximize : ¬maximizeKeyword <:+: f.text) :
    kind? f.text = if f.subjectGap.1 = [' '] then some .constraint else none := by
  rw [kind?_of_hash_not_mem (Text.not_mem_of_forall_true (by decide +kernel) f.isNotation),
    if_neg hvar, if_neg (not_or.2 ⟨hminimize, hmaximize⟩)]
  simp only [f.subjectToMark_infix_text_iff]

/-! ## The readers -/

/-- **Readers and kinds.** A readable statement that mentions no mark of a kind that comes before
its own is of its own kind, except for a constraint without a single space between the words of its
keyword, which is of no kind. -/
theorem classify_of_readable (s : Text) :
    (∀ t, readDeclaration s = .ok t → classify s = .ok .declaration) ∧
      (∀ o, readObjective s = .ok o → ¬varKeyword <:+: s → classify s = .ok .objective) ∧
      ∀ strict c, readConstraint strict s = .ok c → ¬varKeyword <:+: s →
        ¬minimizeKeyword <:+: s → ¬maximizeKeyword <:+: s →
        ∃ f : ConstraintForm, f.text = s ∧ f.constraint = c ∧ classify s =
          if f.subjectGap.1 = [' '] then .ok .constraint
          else .error (Cause.unknownStatement.inStatement s) := by
  refine ⟨fun t ht => ?_, fun o ho hvar => ?_, fun strict c hc hvar hminimize hmaximize => ?_⟩
  · obtain ⟨f, rfl, -⟩ := readDeclaration_eq_ok_iff.1 ht
    rw [classify, f.kind?_text]
  · obtain ⟨f, rfl, -⟩ := readObjective_eq_ok_iff.1 ho
    rw [classify, f.kind?_text hvar]
  · obtain ⟨f, -, rfl, rfl⟩ := readConstraint_eq_ok_iff.1 hc
    refine ⟨f, rfl, rfl, ?_⟩
    rw [classify, f.kind?_text hvar hminimize hmaximize]
    by_cases hgap : f.subjectGap.1 = [' '] <;> simp [hgap]

/-- A constraint with two spaces between the words of its keyword. -/
def widelySpaced : Text := "subject  to c: x <= 1".toList

theorem classify_of_readable_widelySpaced :
    ∃ c, readConstraint true widelySpaced = .ok c ∧ ¬varKeyword <:+: widelySpaced ∧
      ¬minimizeKeyword <:+: widelySpaced ∧ ¬maximizeKeyword <:+: widelySpaced ∧
      ∃ f : ConstraintForm, f.text = widelySpaced ∧ f.constraint = c ∧ classify widelySpaced =
        if f.subjectGap.1 = [' '] then .ok .constraint
        else .error (Cause.unknownStatement.inStatement widelySpaced) := by
  have hread : ∃ c, readConstraint true widelySpaced = .ok c :=
    ⟨⟨['c'], [⟨['x'], 1⟩], 1, .atMost⟩, by decide +kernel⟩
  obtain ⟨c, hc⟩ := hread
  have hvar : ¬varKeyword <:+: widelySpaced := by decide +kernel
  have hminimize : ¬minimizeKeyword <:+: widelySpaced := by decide +kernel
  have hmaximize : ¬maximizeKeyword <:+: widelySpaced := by decide +kernel
  exact ⟨c, hc, hvar, hminimize, hmaximize,
    (classify_of_readable widelySpaced).2.2 true c hc hvar hminimize hmaximize⟩

/-- Not all constraints that can be read, and mention no other mark, are of their kind. -/
theorem not_forall_readable_constraint_classified :
    ¬∀ strict s c, Text.trim s = s → readConstraint strict s = .ok c → ¬varKeyword <:+: s →
      ¬minimizeKeyword <:+: s → ¬maximizeKeyword <:+: s → classify s = .ok .constraint := by
  intro h
  have := h true widelySpaced ⟨['c'], [⟨['x'], 1⟩], 1, .atMost⟩ (by decide +kernel)
    (by decide +kernel) (by decide +kernel) (by decide +kernel) (by decide +kernel)
  exact absurd this (by decide +kernel)

end Statement

end LinearProgram
