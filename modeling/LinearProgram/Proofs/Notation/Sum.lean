import LinearProgram.Notation.Sum
import LinearProgram.Proofs.Number.Literal
import LinearProgram.Proofs.Sequence
import LinearProgram.Proofs.Text.Piece

/-!
# Sums as they are written

A `TermForm` is a term with everything that is written of it: the blanks, the minus, the literal
with its star, and the name. Its text is all of that in order, and its term is what remains when
the writing is forgotten.

**Terms** (`readTerm_eq_ok_iff`). The reader accepts the texts of the forms and no others, and reads
the term of the form.

**Sums** (`readTerms_eq_ok_iff`). A sum is accepted exactly when it is the texts of forms, at least
one, joined by plus signs. Neither the statement that a sum stands in nor blanks behind it change
what it is read as.
-/

namespace LinearProgram

/-! ## Pieces of statements -/

/-- Blanks, possibly none. -/
abbrev Blanks := {s : Text // Text.Blank s}

/-- Blanks, at least one. -/
abbrev Gap := {s : Text // s ≠ [] ∧ Text.Blank s}

/-- No blanks. -/
def noBlanks : Blanks := ⟨[], Text.blank_nil⟩

/-- Names, as texts of their own. -/
abbrev Name := {s : Text // isName s = true}

theorem isBlank_of_mem_name {name : Name} {c : Char} (hc : c ∈ name.1) : isBlank c = false :=
  isBlank_of_isWord (isWord_of_isName name.2 hc)

theorem Name.trimmed (name : Name) : Text.Trimmed name.1 :=
  Text.trimmed_of_no_blank fun _ => isBlank_of_mem_name

theorem Name.ne_nil (name : Name) : name.1 ≠ [] := isName_ne_nil name.2

theorem not_mem_name_of_mem_punctuation {c : Char} (hc : c ∈ punctuation) (name : Name) :
    c ∉ name.1 := fun hmem =>
  not_mem_punctuation_of_isWord (isWord_of_isName name.2 hmem) hc

theorem not_mem_blanks_of_mem_punctuation {c : Char} (hc : c ∈ punctuation) (blanks : Blanks) :
    c ∉ blanks.1 := fun hmem =>
  not_mem_punctuation_of_isBlank (blanks.2 c hmem) hc

/-- A minus and the blanks behind it, where there is one. -/
def minusText : Option Blanks → Text
  | none => []
  | some blanks => '-' :: blanks.1

/-- A number with the sign that is written before it. -/
def signed (minus : Option Blanks) (value : Number) : Number :=
  if minus.isSome then -value else value

/-- The literal of a coefficient, and the star behind it with its blanks. -/
@[ext]
structure Factor where
  literal : Literal
  before : Blanks
  after : Blanks

/-- The factor as it is written, where there is one. -/
def factorText : Option Factor → Text
  | none => []
  | some factor => factor.literal.text ++ factor.before.1 ++ '*' :: factor.after.1

/-- What a name is multiplied by; without a factor, by one. -/
def factorValue : Option Factor → Number
  | none => 1
  | some factor => factor.literal.value

/-- A term with everything that is written of it. -/
@[ext]
structure TermForm where
  before : Blanks
  minus : Option Blanks
  factor : Option Factor
  name : Name
  after : Blanks

namespace TermForm

/-- The term as it is written, without the blanks around it. -/
def core (f : TermForm) : Text := minusText f.minus ++ (factorText f.factor ++ f.name.1)

/-- The term as it is written. -/
def text (f : TermForm) : Text := f.before.1 ++ f.core ++ f.after.1

/-- The term that is meant. -/
def term (f : TermForm) : Term Number := ⟨f.name.1, signed f.minus (factorValue f.factor)⟩

end TermForm

/-- A sum as it is written: its terms with plus signs between them. -/
def sumText (forms : List TermForm) : Text := ['+'].intercalate (forms.map TermForm.text)

variable {statement s name : Text} {value : Number} {t : Term Number} {ts : List (Term Number)}

/-! ## Signs -/

/-- Blanks behind a minus belong to it, and without one they belong to the blanks before. -/
theorem exists_minusText_append (before : Blanks) (minus : Option Blanks) (after : Blanks) :
    ∃ (before' : Blanks) (minus' : Option Blanks), minus'.isSome = minus.isSome ∧
      before.1 ++ (minusText minus ++ after.1) = before'.1 ++ minusText minus' := by
  cases minus with
  | none => exact ⟨⟨_, before.2.append after.2⟩, none, rfl, by simp [minusText]⟩
  | some blanks => exact ⟨before, some ⟨_, blanks.2.append after.2⟩, rfl, by simp [minusText]⟩

/-- What the reader takes for the sign, and what it leaves. -/
theorem exists_of_splitMinus (s : Text) : ∃ (minus : Option Blanks) (after : Blanks),
    s = minusText minus ++ (splitMinus s).2 ++ after.1 ∧ (splitMinus s).1 = minus.isSome := by
  unfold splitMinus
  split
  · rename_i rest
    obtain ⟨u, v, hu, hv, hrest⟩ := Text.exists_eq_append_trim_append rest
    exact ⟨some ⟨u, hu⟩, ⟨v, hv⟩, congrArg ('-' :: ·) hrest, rfl⟩
  · exact ⟨none, noBlanks, by simp [minusText, noBlanks], rfl⟩

theorem trimmed_splitMinus (h : Text.Trimmed s) : Text.Trimmed (splitMinus s).2 := by
  unfold splitMinus
  split
  · exact Text.trimmed_trim _
  · exact h

theorem trimmed_minusText_append (minus : Option Blanks) {rest : Text} (h : Text.Trimmed rest)
    (hne : rest ≠ []) : Text.Trimmed (minusText minus ++ rest) := by
  cases minus with
  | none => exact h
  | some blanks =>
    have hdash : Text.Trimmed ['-'] := Text.trimmed_of_any_isBlank (by decide)
    simpa [minusText] using hdash.append (by simp) h hne blanks.1

/-- Without a minus, what follows must not begin with one. -/
theorem splitMinus_minusText_append (minus : Option Blanks) {rest : Text}
    (htrim : Text.Trimmed rest) (hminus : minus = none → rest.head? ≠ some '-') :
    splitMinus (minusText minus ++ rest) = (minus.isSome, rest) := by
  cases minus with
  | none =>
    show splitMinus rest = _
    unfold splitMinus
    split
    · simp at hminus
    · rfl
  | some blanks =>
    show (true, Text.trim (blanks.1 ++ rest)) = _
    rw [htrim.trim_append_left blanks.2]
    rfl

/-- The sign ends where neither a blank nor a minus follows. -/
theorem minusText_append_inj {minus minus' : Option Blanks} {x y : Text}
    (hx : Text.Stops isBlank x) (hy : Text.Stops isBlank y) (hxMinus : x.head? ≠ some '-')
    (hyMinus : y.head? ≠ some '-') (h : minusText minus ++ x = minusText minus' ++ y) :
    minus = minus' ∧ x = y := by
  cases minus with
  | none =>
    cases minus' with
    | none => exact ⟨rfl, h⟩
    | some blanks' => exact absurd (congrArg List.head? h) hxMinus
  | some blanks =>
    cases minus' with
    | none => exact absurd (congrArg List.head? h.symm) hyMinus
    | some blanks' =>
      obtain ⟨hblanks, hrest⟩ := Text.append_inj_of_stops blanks.2 blanks'.2 hx hy
        (List.cons.inj h).2
      exact ⟨congrArg some (Subtype.ext hblanks), hrest⟩

/-! ## Factors -/

theorem star_not_mem_literal_append (literal : Literal) (blanks : Blanks) :
    '*' ∉ literal.text ++ blanks.1 := by
  intro hc
  rcases List.mem_append.1 hc with hc | hc
  · exact literal.not_mem_text (by decide) (by decide) hc
  · exact not_mem_blanks_of_mem_punctuation (by decide) blanks hc

/-- What is done with the two sides of the first star. -/
theorem splitFactor_append_star {x : Text} (hx : '*' ∉ x) (statement y : Text) :
    splitFactor statement (x ++ '*' :: y) =
      if (Text.trim x).isEmpty then
        .error (Cause.inStatement (.incomplete .missingCoefficient) statement)
      else match readLiteral? (Text.trim x) with
        | some value => .ok (value, Text.trim y)
        | none => .error ⟨.invalidLiteral (Text.trim x), some statement⟩ := by
  have hmem : (x ++ '*' :: y).contains '*' = true := by simp
  rw [splitFactor, if_pos hmem, Text.takeWhile_append_cons hx, Text.dropWhile_append_cons hx]
  simp only [List.drop_succ_cons, List.drop_zero, readCoefficient]
  cases readLiteral? (Text.trim x) <;> rfl

/-- The first star ends the coefficient. -/
theorem splitFactor_factorText (statement : Text) (factor : Option Factor) (name : Name) :
    splitFactor statement (factorText factor ++ name.1) = .ok (factorValue factor, name.1) := by
  cases factor with
  | none =>
    have hstar : '*' ∉ name.1 := not_mem_name_of_mem_punctuation (by decide) name
    simp [factorText, factorValue, splitFactor, hstar]
  | some factor =>
    obtain ⟨literal, before, after⟩ := factor
    have hsplit : factorText (some ⟨literal, before, after⟩) ++ name.1 =
        (literal.text ++ before.1) ++ ('*' :: (after.1 ++ name.1)) := by simp [factorText]
    have hliteral : Text.trim (literal.text ++ before.1) = literal.text :=
      literal.trimmed_text.trim_append_right before.2
    have hname : Text.trim (after.1 ++ name.1) = name.1 := name.trimmed.trim_append_left after.2
    have hread : readLiteral? literal.text = some literal.value :=
      readLiteral?_eq_some_iff.2 ⟨literal, rfl, rfl⟩
    rw [hsplit, splitFactor_append_star (star_not_mem_literal_append literal before), hliteral,
      hname, hread]
    simp [literal.text_ne_nil, factorValue]

theorem readCoefficient_eq_ok_iff {statement : Option Text} :
    readCoefficient statement s = .ok value ↔ ∃ l : Literal, l.text = s ∧ l.value = value := by
  rw [readCoefficient, ← readLiteral?_eq_some_iff]
  cases readLiteral? s <;> simp

/-- What the reader takes for the factor, and what it leaves for the name. -/
theorem exists_of_splitFactor (h : splitFactor statement s = .ok (value, name)) :
    ∃ (before : Blanks) (factor : Option Factor) (after : Blanks),
      s = before.1 ++ (factorText factor ++ name) ++ after.1 ∧ factorValue factor = value := by
  simp only [splitFactor] at h
  split at h
  · rename_i hstar
    have hs := Text.takeWhile_append_cons_drop (c := '*') (x := s) (by simpa using hstar)
    split at h
    · simp at h
    · split at h
      · rename_i value' hvalue
        obtain ⟨rfl, rfl⟩ : value' = value ∧ _ = name := by simpa using h
        obtain ⟨l, hl, rfl⟩ := readCoefficient_eq_ok_iff.1 hvalue
        obtain ⟨u, v, hu, hv, hleft⟩ :=
          Text.exists_eq_append_trim_append (s.takeWhile (· != '*'))
        obtain ⟨w, z, hw, hz, hright⟩ :=
          Text.exists_eq_append_trim_append ((s.dropWhile (· != '*')).drop 1)
        refine ⟨⟨u, hu⟩, some ⟨l, ⟨v, hv⟩, ⟨w, hw⟩⟩, ⟨z, hz⟩, ?_, rfl⟩
        calc s = s.takeWhile (· != '*') ++ '*' :: (s.dropWhile (· != '*')).drop 1 := hs.symm
          _ = u ++ l.text ++ v ++ '*' :: (w ++ Text.trim ((s.dropWhile (· != '*')).drop 1) ++ z) :=
            by rw [hl, ← hleft, ← hright]
          _ = _ := by simp [factorText]
      · simp at h
  · obtain ⟨rfl, rfl⟩ : 1 = value ∧ s = name := by simpa using h
    exact ⟨noBlanks, none, noBlanks, by simp [factorText, noBlanks], rfl⟩

/-! ## Terms -/

/-- A property of the characters that stand around the name in a term. -/
structure Filling (p : Char → Prop) : Prop where
  digit : ∀ c, isDigit c = true → p c
  blank : ∀ c, isBlank c = true → p c
  minus : p '-'
  star : p '*'
  point : p '.'

namespace Filling

variable {p : Char → Prop} (hp : Filling p)

include hp

theorem of_mem_blanks (blanks : Blanks) : ∀ c ∈ blanks.1, p c := fun c hc =>
  hp.blank c (blanks.2 c hc)

theorem of_mem_literal (l : Literal) : ∀ c ∈ l.text, p c := by
  intro c hc
  rcases Literal.isDigit_or_eq_of_mem_text hc with hc | rfl
  · exact hp.digit c hc
  · exact hp.point

theorem of_mem_minusText (minus : Option Blanks) : ∀ c ∈ minusText minus, p c := by
  cases minus with
  | none => simp [minusText]
  | some blanks => exact List.forall_mem_cons.2 ⟨hp.minus, hp.of_mem_blanks blanks⟩

theorem of_mem_factorText (factor : Option Factor) : ∀ c ∈ factorText factor, p c := by
  cases factor with
  | none => simp [factorText]
  | some factor =>
    simp only [factorText, List.forall_mem_append, List.forall_mem_cons]
    exact ⟨⟨hp.of_mem_literal factor.literal, hp.of_mem_blanks factor.before⟩, hp.star,
      hp.of_mem_blanks factor.after⟩

end Filling

namespace TermForm

theorem trimmed_factorText_append (factor : Option Factor) (name : Name) :
    Text.Trimmed (factorText factor ++ name.1) := by
  cases factor with
  | none => exact name.trimmed
  | some factor =>
    have := factor.literal.trimmed_text.append factor.literal.text_ne_nil name.trimmed name.ne_nil
      (factor.before.1 ++ '*' :: factor.after.1)
    simpa [factorText] using this

theorem head?_factorText_append (factor : Option Factor) (name : Name) :
    (factorText factor ++ name.1).head? ≠ some '-' := by
  intro h
  have hmem : '-' ∈ name.1 ∨ ∃ l : Literal, '-' ∈ l.text := by
    cases factor with
    | none => exact Or.inl (List.mem_of_head? h)
    | some factor =>
      rw [factorText, List.append_assoc, List.append_assoc,
        List.head?_append_of_ne_nil _ factor.literal.text_ne_nil] at h
      exact Or.inr ⟨factor.literal, List.mem_of_head? h⟩
  rcases hmem with hmem | ⟨l, hmem⟩
  · exact not_mem_name_of_mem_punctuation (by decide) name hmem
  · exact l.not_mem_text (by decide) (by decide) hmem

theorem trimmed_core (f : TermForm) : Text.Trimmed f.core :=
  trimmed_minusText_append f.minus (trimmed_factorText_append f.factor f.name)
    (by simp [f.name.ne_nil])

theorem core_ne_nil (f : TermForm) : f.core ≠ [] := by
  simp [core, f.name.ne_nil]

theorem trim_text (f : TermForm) : Text.trim f.text = f.core :=
  f.trimmed_core.trim_append f.before.2 f.after.2

/-- What all characters of a term have, those of its name included. -/
theorem forall_mem_text {p : Char → Prop} (hp : Filling p) (hword : ∀ c, isWord c = true → p c)
    (f : TermForm) : ∀ c ∈ f.text, p c := by
  simp only [text, core, List.forall_mem_append]
  exact ⟨⟨hp.of_mem_blanks f.before, hp.of_mem_minusText f.minus, hp.of_mem_factorText f.factor,
    fun c hc => hword c (isWord_of_isName f.name.2 hc)⟩, hp.of_mem_blanks f.after⟩

/-- No term contains a plus sign, so plus signs end terms. -/
theorem plus_not_mem_text (f : TermForm) : '+' ∉ f.text := by
  have hword : ∀ c, isWord c = true → c ≠ '+' := by
    rintro c hc rfl
    exact not_mem_punctuation_of_isWord hc (by decide)
  have hblank : ∀ c, isBlank c = true → c ≠ '+' := by
    rintro c hc rfl
    exact not_mem_punctuation_of_isBlank hc (by decide)
  have hp : Filling (· ≠ '+') :=
    ⟨fun c hc => hword c (isWord_of_isDigit hc), hblank, by decide, by decide, by decide⟩
  exact fun hmem => f.forall_mem_text hp hword '+' hmem rfl

end TermForm

/-- The reader accepts the text of a form, and reads its term. -/
theorem readTerm_text (statement : Option Text) (f : TermForm) :
    readTerm statement f.text = .ok f.term := by
  have hminus := splitMinus_minusText_append f.minus
    (TermForm.trimmed_factorText_append f.factor f.name)
    fun _ => TermForm.head?_factorText_append f.factor f.name
  have hne : f.core.isEmpty = false := by simpa using f.core_ne_nil
  simp only [readTerm, f.trim_text, hne, Bool.false_eq_true, if_false]
  rw [TermForm.core, hminus]
  simp only [splitFactor_factorText, f.name.2, if_true]
  rfl

/-- What is read as a term has the form of one. -/
theorem exists_of_readTerm {statement : Option Text} (h : readTerm statement s = .ok t) :
    ∃ f : TermForm, f.text = s ∧ f.term = t := by
  simp only [readTerm] at h
  split at h
  · simp at h
  · split at h
    · simp at h
    · rename_i value name hfactor
      split at h
      · rename_i hname
        obtain ⟨u, v, hu, hv, hs⟩ := Text.exists_eq_append_trim_append s
        obtain ⟨minus, behind, hbody, hsign⟩ := exists_of_splitMinus (Text.trim s)
        obtain ⟨before, factor, after, hrest, rfl⟩ := exists_of_splitFactor hfactor
        obtain ⟨before', minus', hminus', hleft⟩ := exists_minusText_append ⟨u, hu⟩ minus before
        refine ⟨⟨before', minus', factor, ⟨name, hname⟩,
          ⟨_, (after.2.append behind.2).append hv⟩⟩, ?_, ?_⟩
        · rw [hrest] at hbody
          rw [hs, hbody]
          simp only [TermForm.text, TermForm.core, ← List.append_assoc, ← hleft]
        · obtain rfl : _ = t := by simpa using h
          simp only [TermForm.term, signed, hminus', hsign]
      · simp at h

/-- **What is read as a term, and as which.** -/
theorem readTerm_eq_ok_iff {statement : Option Text} :
    readTerm statement s = .ok t ↔ ∃ f : TermForm, f.text = s ∧ f.term = t := by
  constructor
  · exact exists_of_readTerm
  · rintro ⟨f, rfl, rfl⟩
    exact readTerm_text statement f

/-! ## Sums -/

/-- Blanks around a term do not change what it is read as, faults included. -/
theorem readTerm_trim (statement : Text) :
    readTerm (some statement) ∘ Text.trim = readTerm (some statement) := by
  funext s
  have : Text.trim (Text.trim s) = Text.trim s := Text.trimmed_trim s
  simp only [Function.comp, readTerm, this, Option.getD_some]

/-- Blanks behind a sum are blanks behind its last term. -/
theorem map_trim_splitOn_append {blanks : Text} (hb : Text.Blank blanks) (s : Text) :
    ((s ++ blanks).splitOn '+').map Text.trim = (s.splitOn '+').map Text.trim := by
  induction s using Text.separator_induction (c := '+') with
  | last s hplus =>
    have hblanks : '+' ∉ blanks := not_mem_blanks_of_mem_punctuation (by decide) ⟨blanks, hb⟩
    rw [List.splitOn_eq_singleton (by simp [hplus, hblanks]), List.splitOn_eq_singleton hplus]
    simp [Text.trim_append_of_blank hb s]
  | cut first rest _ ih =>
    rw [List.append_assoc, List.cons_append, Text.splitOn_append_cons, Text.splitOn_append_cons,
      List.map_append, List.map_append, ih]

/-- Blanks behind a sum do not change what it is read as, faults included. -/
theorem readTerms_append_of_blank {blanks : Text} (hb : Text.Blank blanks) (statement s : Text) :
    readTerms (some statement) (s ++ blanks) = readTerms (some statement) s := by
  have hpieces (pieces : List Text) : pieces.mapM (readTerm (some statement)) =
      (pieces.map Text.trim).mapM (readTerm (some statement)) := by
    rw [List.mapM_map, readTerm_trim]
  simp only [readTerms, Option.getD_some, Text.trim_append_of_blank hb]
  rw [hpieces, map_trim_splitOn_append hb, ← hpieces]

theorem splitOn_sumText {forms : List TermForm} (h : forms ≠ []) :
    (sumText forms).splitOn '+' = forms.map TermForm.text := by
  refine List.splitOn_intercalate '+' (fun piece hpiece => ?_) (by simpa using h)
  obtain ⟨f, -, rfl⟩ := List.mem_map.1 hpiece
  exact f.plus_not_mem_text

/-- A sum of terms does not consist of blanks. -/
theorem trim_sumText_ne_nil {forms : List TermForm} (h : forms ≠ []) :
    Text.trim (sumText forms) ≠ [] := by
  intro hblank
  obtain ⟨f, forms, rfl⟩ := List.exists_cons_of_ne_nil h
  have hpart : f.text <:+: sumText (f :: forms) :=
    Text.infix_of_mem_splitOn (c := '+') (by simp [splitOn_sumText h])
  obtain ⟨c, hc⟩ := List.exists_mem_of_ne_nil _ f.name.ne_nil
  have hmem : c ∈ sumText (f :: forms) := hpart.subset (by simp [TermForm.text, TermForm.core, hc])
  have := Text.blank_of_trim_eq_nil hblank c hmem
  rw [isBlank_of_mem_name hc] at this
  exact absurd this (by decide)

/-- **What is read as a sum, and as which terms.** -/
theorem readTerms_eq_ok_iff {statement : Option Text} : readTerms statement s = .ok ts ↔
    ∃ forms : List TermForm, forms ≠ [] ∧ sumText forms = s ∧ forms.map TermForm.term = ts := by
  have hpieces (statement' : Text) : (s.splitOn '+').mapM (readTerm (some statement')) = .ok ts ↔
      ∃ forms : List TermForm, forms.map TermForm.text = s.splitOn '+' ∧
        forms.map TermForm.term = ts := by
    rw [mapM_eq_ok_iff]
    simp only [readTerm_eq_ok_iff]
    exact forall₂_exists_iff
  simp only [readTerms]
  split
  · rename_i hempty
    constructor
    · intro h
      simp at h
    · rintro ⟨forms, hne, rfl, -⟩
      exact absurd (List.isEmpty_iff.1 hempty) (trim_sumText_ne_nil hne)
  · rw [hpieces]
    constructor
    · rintro ⟨forms, htexts, hterms⟩
      refine ⟨forms, ?_, by rw [sumText, htexts, List.intercalate_splitOn], hterms⟩
      rintro rfl
      exact absurd htexts.symm (List.splitOn_ne_nil _ _)
    · rintro ⟨forms, hne, rfl, hterms⟩
      exact ⟨forms, (splitOn_sumText hne).symm, hterms⟩

theorem isName_of_readTerms {statement : Option Text} (h : readTerms statement s = .ok ts) :
    ∀ t ∈ ts, isName t.name = true := by
  obtain ⟨forms, -, -, rfl⟩ := readTerms_eq_ok_iff.1 h
  intro t ht
  obtain ⟨f, -, rfl⟩ := List.mem_map.1 ht
  exact f.name.2

theorem trim_ne_nil_of_readTerms {statement : Option Text}
    (h : readTerms statement s = .ok ts) : Text.trim s ≠ [] := by
  obtain ⟨forms, hne, rfl, -⟩ := readTerms_eq_ok_iff.1 h
  exact trim_sumText_ne_nil hne

end LinearProgram
