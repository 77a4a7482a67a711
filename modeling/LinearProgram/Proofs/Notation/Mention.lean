import LinearProgram.Proofs.Notation.Form
import LinearProgram.Proofs.Text.Mention

/-!
# What statements mention

The kind of a statement is told from the marks that it mentions anywhere, and its reader takes it
apart from left to right. To compare the two, this module says which marks the text of a form
mentions.

**Characters.** The text of a form consists of word characters, blanks and the punctuation inside
statements (`isNotation`), so it holds neither a number sign nor a semicolon.

**Words** (`Mark`). A mark begins and ends with a letter. Between the keywords and the names of a
form there is nothing but blanks, punctuation and literals, and these hold no letter. So a keyword
is mentioned in a keyword or in a name (`ObjectiveForm.infix_text_iff`,
`ConstraintForm.infix_text_iff`), and `subject to` is mentioned only where the gap between the two
words is a single space (`ConstraintForm.subjectToMark_infix_text_iff`).
-/

namespace LinearProgram

open Statement

variable {w s : Text} {ts : List (Term Number)}

/-! ## Characters -/

/-- The punctuation inside statements. -/
def innerPunctuation : Text := [':', '+', '-', '*', '.', '<', '>', '=']

/-- Characters that occur in readable statements. -/
def isNotation (c : Char) : Bool := isWord c || isBlank c || innerPunctuation.contains c

theorem isNotation_of_mem {c : Char} (h : c ∈ innerPunctuation) : isNotation c = true := by
  simp [isNotation, h]

theorem isNotation_of_isWord {c : Char} (h : isWord c = true) : isNotation c = true := by
  simp [isNotation, h]

theorem filling_isNotation : Filling (isNotation · = true) where
  digit c h := isNotation_of_isWord (isWord_of_isDigit h)
  blank c h := by simp [isNotation, h]
  minus := isNotation_of_mem (by decide)
  star := isNotation_of_mem (by decide)
  point := isNotation_of_mem (by decide)

theorem isNotation_of_mem_name (name : Name) : ∀ c ∈ name.1, isNotation c = true := fun _ hc =>
  isNotation_of_isWord (isWord_of_isName name.2 hc)

theorem isNotation_of_mem_gap (gap : Gap) : ∀ c ∈ gap.1, isNotation c = true := fun c hc =>
  filling_isNotation.blank c (gap.2.2 c hc)

/-- What all characters of a sum have. -/
theorem forall_mem_of_readTerms {p : Char → Prop} (hp : Filling p)
    (hword : ∀ c, isWord c = true → p c) (hplus : p '+') {statement : Option Text}
    (h : readTerms statement s = .ok ts) : ∀ c ∈ s, p c := by
  obtain ⟨forms, -, rfl, -⟩ := readTerms_eq_ok_iff.1 h
  intro c hc
  by_cases hc' : c = '+'
  · rwa [hc']
  · have hnot : '+' ∉ [c] := by simpa using Ne.symm hc'
    obtain ⟨piece, hpiece, hmem⟩ := (Text.infix_intercalate_iff hnot (by simp) _).1
      ((List.singleton_infix_iff c _).2 hc)
    obtain ⟨f, -, rfl⟩ := List.mem_map.1 hpiece
    exact f.forall_mem_text hp hword c ((List.singleton_infix_iff c _).1 hmem)

/-- No operator stands in a sum. -/
theorem isOperatorChar_of_readTerms {statement : Option Text} (h : readTerms statement s = .ok ts) :
    ∀ c ∈ s, isOperatorChar c = false :=
  forall_mem_of_readTerms filling_not_isOperatorChar (fun _ => isOperatorChar_of_isWord)
    (by decide) h

theorem isNotation_of_readTerms {statement : Option Text} (h : readTerms statement s = .ok ts) :
    ∀ c ∈ s, isNotation c = true :=
  forall_mem_of_readTerms filling_isNotation (fun _ => isNotation_of_isWord)
    (isNotation_of_mem (by decide)) h

namespace Statement

theorem Title.isNotation (t : Title) : ∀ c ∈ t.text, isNotation c = true := by
  simp only [text, List.forall_mem_append, List.forall_mem_singleton]
  exact ⟨isNotation_of_mem_gap t.gap, isNotation_of_mem_name t.name,
    filling_isNotation.of_mem_blanks t.after, isNotation_of_mem (by decide)⟩

theorem isNotation_varKeyword : ∀ c ∈ varKeyword, isNotation c = true :=
  Text.forall_of_all (by decide +kernel)

theorem isNotation_keyword (direction : Direction) :
    ∀ c ∈ keyword direction, isNotation c = true := by
  cases direction <;> exact Text.forall_of_all (by decide +kernel)

theorem isNotation_subjectKeyword : ∀ c ∈ subjectKeyword, isNotation c = true :=
  Text.forall_of_all (by decide +kernel)

theorem isNotation_toKeyword : ∀ c ∈ toKeyword, isNotation c = true :=
  Text.forall_of_all (by decide +kernel)

theorem DeclarationForm.isNotation (f : DeclarationForm) : ∀ c ∈ f.text, isNotation c = true := by
  simp only [text, core, List.forall_mem_append]
  exact ⟨⟨filling_isNotation.of_mem_blanks f.before, isNotation_varKeyword,
    isNotation_of_mem_gap f.gap, isNotation_of_mem_name f.name⟩,
    filling_isNotation.of_mem_blanks f.after⟩

theorem ObjectiveForm.isNotation (f : ObjectiveForm) : ∀ c ∈ f.text, isNotation c = true := by
  simp only [text, heading, List.forall_mem_append]
  exact ⟨filling_isNotation.of_mem_blanks f.before,
    ⟨isNotation_keyword f.direction, f.title.isNotation⟩, isNotation_of_readTerms f.sum_reads⟩

theorem ConstraintForm.isNotation (f : ConstraintForm) : ∀ c ∈ f.text, isNotation c = true := by
  have hoperator : ∀ c ∈ f.operator, LinearProgram.isNotation c = true := fun c hc => by
    have h := f.operator_chars c hc
    simp only [isOperatorChar, Bool.or_eq_true, decide_eq_true_eq] at h
    rcases h with (rfl | rfl) | rfl <;> exact isNotation_of_mem (by decide)
  simp only [text, heading, comparison, constantText, List.forall_mem_append]
  exact ⟨⟨filling_isNotation.of_mem_blanks f.before, ⟨isNotation_subjectKeyword,
    isNotation_of_mem_gap f.subjectGap, isNotation_toKeyword, f.title.isNotation⟩,
    isNotation_of_readTerms f.sum_reads, hoperator, filling_isNotation.of_mem_blanks f.gap,
    filling_isNotation.of_mem_minusText f.minus, filling_isNotation.of_mem_literal f.literal⟩,
    filling_isNotation.of_mem_blanks f.after⟩

end Statement

/-! ## Words -/

/-- Characters that stand between words: all but word characters, and digits. -/
def isFiller (c : Char) : Bool := !isWord c || isDigit c

theorem isFiller_of_isBlank {c : Char} (h : isBlank c = true) : isFiller c = true := by
  simp [isFiller, isWord_of_isBlank h]

theorem isFiller_of_mem_punctuation {c : Char} (h : c ∈ punctuation) : isFiller c = true := by
  simp [isFiller, isWord_of_mem_punctuation c h]

theorem isFiller_of_isDigit {c : Char} (h : isDigit c = true) : isFiller c = true := by
  simp [isFiller, h]

/-- A mark begins and ends with a letter, and has no separator in it. -/
structure Mark (w : Text) : Prop where
  ne_nil : w ≠ []
  first : Text.Stops isFiller w
  last : Text.Stops isFiller w.reverse
  colon_not_mem : ':' ∉ w
  plus_not_mem : '+' ∉ w

/-- A word is a mark without blanks. -/
structure Word (w : Text) : Prop where
  ne_nil : w ≠ []
  letters : ∀ c ∈ w, isFiller c = false

theorem Word.mark (h : Word w) : Mark w := by
  have hnot (c : Char) (hc : c ∈ punctuation) : c ∉ w :=
    Text.not_mem_of_forall_false (isFiller_of_mem_punctuation hc) h.letters
  exact ⟨h.ne_nil, Text.stops_of_forall h.letters,
    Text.stops_of_forall fun c hc => h.letters c (List.mem_reverse.1 hc),
    hnot ':' (by decide), hnot '+' (by decide)⟩

theorem filling_isFiller : Filling (isFiller · = true) where
  digit c h := isFiller_of_isDigit h
  blank c h := isFiller_of_isBlank h
  minus := isFiller_of_mem_punctuation (by decide)
  star := isFiller_of_mem_punctuation (by decide)
  point := isFiller_of_mem_punctuation (by decide)

/-- A term mentions what its name mentions. -/
theorem TermForm.infix_text_iff (hw : Mark w) (f : TermForm) : w <:+: f.text ↔ w <:+: f.name.1 := by
  have hbefore :
      ∀ c ∈ f.before.1 ++ minusText f.minus ++ factorText f.factor, isFiller c = true := by
    simp only [List.forall_mem_append]
    exact ⟨⟨filling_isFiller.of_mem_blanks f.before, filling_isFiller.of_mem_minusText f.minus⟩,
      filling_isFiller.of_mem_factorText f.factor⟩
  have hafter := filling_isFiller.of_mem_blanks f.after
  rw [text, Text.infix_append_iff_of_last hafter hw.ne_nil hw.last, core, ← List.append_assoc,
    ← List.append_assoc, Text.infix_run_append_iff hbefore hw.ne_nil hw.first]

/-- A sum mentions what the names of its terms mention. -/
theorem infix_iff_of_readTerms (hw : Mark w) {statement : Option Text}
    (h : readTerms statement s = .ok ts) : w <:+: s ↔ ∃ t ∈ ts, w <:+: t.name := by
  obtain ⟨forms, -, rfl, rfl⟩ := readTerms_eq_ok_iff.1 h
  rw [sumText, Text.infix_intercalate_iff hw.plus_not_mem hw.ne_nil]
  simp [TermForm.infix_text_iff hw, TermForm.term]

namespace Statement

theorem word_varKeyword : Word varKeyword := ⟨by decide, Text.forall_of_any (by decide +kernel)⟩

theorem word_minimizeKeyword : Word minimizeKeyword :=
  ⟨by decide, Text.forall_of_any (by decide +kernel)⟩

theorem word_maximizeKeyword : Word maximizeKeyword :=
  ⟨by decide, Text.forall_of_any (by decide +kernel)⟩

/-- No mark lies across the colon of a title. -/
theorem Title.infix_append_iff (hw : Mark w) (t : Title) (x body : Text) :
    w <:+: x ++ (t.text ++ body) ↔ w <:+: x ++ (t.gap.1 ++ t.name.1) ∨ w <:+: body := by
  have htext : x ++ (t.text ++ body) =
      (x ++ (t.gap.1 ++ t.name.1) ++ t.after.1) ++ ':' :: body := by simp [Title.text]
  rw [htext, Text.infix_append_cons_iff hw.colon_not_mem,
    Text.infix_append_iff_of_last (filling_isFiller.of_mem_blanks t.after) hw.ne_nil hw.last]

/-- No word lies across a gap. -/
theorem infix_append_gap_iff (hw : Word w) (gap : Gap) (x y : Text) :
    w <:+: x ++ (gap.1 ++ y) ↔ w <:+: x ∨ w <:+: y :=
  Text.infix_append_run_iff (fun c hc => isFiller_of_isBlank (gap.2.2 c hc)) gap.2.1 hw.ne_nil
    hw.letters

/-- The mark of constraints lies across a gap only where the gap is the space in it. -/
theorem subjectToMark_infix_gap_iff {a x : Text} (gap : Gap) (hx : Text.Stops isBlank x) :
    subjectToMark <:+: a ++ (gap.1 ++ x) ↔ subjectToMark <:+: a ∨
      (subjectKeyword <:+ a ∧ gap.1 = [' '] ∧ toKeyword <+: x) ∨ subjectToMark <:+: x :=
  Text.infix_gap_iff (by decide) (by decide) (Text.forall_of_any (by decide)) (by decide)
    (Text.forall_of_any (by decide)) gap.2.1 gap.2.2 hx

/-! ## Objectives -/

theorem ObjectiveForm.infix_text_iff (hw : Word w) (f : ObjectiveForm) : w <:+: f.text ↔
    w <:+: keyword f.direction ∨ w <:+: f.title.name.1 ∨ ∃ t ∈ f.terms, w <:+: t.name := by
  have hbefore := filling_isFiller.of_mem_blanks f.before
  rw [text, Text.infix_run_append_iff hbefore hw.ne_nil hw.mark.first, heading, List.append_assoc,
    f.title.infix_append_iff hw.mark, infix_append_gap_iff hw,
    infix_iff_of_readTerms hw.mark f.sum_reads, or_assoc]

/-! ## Constraints -/

namespace ConstraintForm

/-- Behind the left side of a constraint there is no letter. -/
theorem isFiller_tail (f : ConstraintForm) :
    ∀ c ∈ f.operator ++ (f.gap.1 ++ f.constantText) ++ f.after.1, isFiller c = true := by
  simp only [constantText, List.forall_mem_append]
  exact ⟨⟨fun c hc => isFiller_of_mem_punctuation
      (mem_punctuation_of_isOperatorChar (f.operator_chars c hc)),
    filling_isFiller.of_mem_blanks f.gap, filling_isFiller.of_mem_minusText f.minus,
    filling_isFiller.of_mem_literal f.literal⟩, filling_isFiller.of_mem_blanks f.after⟩

/-- Where a constraint can mention a mark: before its colon, or in a name of its left side. -/
theorem mark_infix_text_iff (hw : Mark w) (f : ConstraintForm) : w <:+: f.text ↔
    w <:+: subjectKeyword ++ (f.subjectGap.1 ++ (toKeyword ++ (f.title.gap.1 ++ f.title.name.1))) ∨
      ∃ t ∈ f.terms, w <:+: t.name := by
  have htext : f.text = f.before.1 ++ ((subjectKeyword ++ (f.subjectGap.1 ++ toKeyword)) ++
      (f.title.text ++ f.sum) ++ (f.operator ++ (f.gap.1 ++ f.constantText) ++ f.after.1)) := by
    simp [text, heading, comparison]
  have hbefore := filling_isFiller.of_mem_blanks f.before
  rw [htext, Text.infix_run_append_iff hbefore hw.ne_nil hw.first,
    Text.infix_append_iff_of_last f.isFiller_tail hw.ne_nil hw.last,
    f.title.infix_append_iff hw, infix_iff_of_readTerms hw f.sum_reads]
  simp

theorem infix_text_iff (hw : Word w) (f : ConstraintForm) : w <:+: f.text ↔
    w <:+: subjectKeyword ∨ w <:+: toKeyword ∨ w <:+: f.title.name.1 ∨
      ∃ t ∈ f.terms, w <:+: t.name := by
  rw [f.mark_infix_text_iff hw.mark, infix_append_gap_iff hw, infix_append_gap_iff hw, or_assoc,
    or_assoc]

theorem mark_subjectToMark : Mark subjectToMark :=
  ⟨by decide, Text.stops_cons (by decide +kernel) _, Text.stops_cons (by decide +kernel) _,
    by decide, by decide⟩

/-- **A constraint mentions the mark of constraints** exactly when one space stands between the two
words of its keyword. -/
theorem subjectToMark_infix_text_iff (f : ConstraintForm) :
    subjectToMark <:+: f.text ↔ f.subjectGap.1 = [' '] := by
  -- A text without blanks does not mention the mark, which has one.
  have hnot {a : Text} (ha : ∀ c ∈ a, isBlank c = false) : ¬subjectToMark <:+: a := fun h =>
    absurd (h.subset (show ' ' ∈ subjectToMark by decide))
      (Text.not_mem_of_forall_false (by decide) ha)
  have hname (name : Name) : ¬subjectToMark <:+: name.1 := hnot fun _ => isBlank_of_mem_name
  have hterms : ¬∃ t ∈ f.terms, subjectToMark <:+: t.name := by
    rintro ⟨t, ht, h⟩
    exact hname ⟨t.name, isName_of_readTerms f.sum_reads t ht⟩ h
  have hgap {a x : Text} {gap : Gap} (ha : ∀ c ∈ a, isBlank c = false)
      (hx : Text.Stops isBlank x) : subjectToMark <:+: a ++ (gap.1 ++ x) ↔
        (subjectKeyword <:+ a ∧ gap.1 = [' '] ∧ toKeyword <+: x) ∨ subjectToMark <:+: x :=
    (subjectToMark_infix_gap_iff gap hx).trans (or_iff_right (hnot ha))
  have hnameStops : Text.Stops isBlank f.title.name.1 :=
    Text.stops_of_forall fun c hc => isBlank_of_mem_name hc
  have hsuffix : ¬subjectKeyword <:+ toKeyword := by decide
  rw [f.mark_infix_text_iff mark_subjectToMark,
    hgap (Text.forall_of_any (by decide)) (stops_isBlank_toKeyword _),
    hgap (Text.forall_of_any (by decide)) hnameStops]
  simp [hterms, hname, hsuffix]

end ConstraintForm

end Statement

end LinearProgram
