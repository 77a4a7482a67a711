import LinearProgram.Proofs.Notation.Sum

/-!
# The grammar of sums

What is accepted as a sum is the texts of terms with plus signs between them, and a sum that is
refused is refused for its first bad term.

**One form for a text** (`TermForm.text_injective`). A term is read off from left to right: blanks,
a minus, a literal up to its star, a name. Each part ends where a character stands that it cannot
contain. Plus signs stand in no term, so the pieces between them are the terms of a sum.

**The fault of a bad term** (`causedBy_of_readTerm`). A coefficient is looked at before the name is,
so a misread coefficient is reported whatever else is wrong with the term. What stands before the
first star is the same for the reader, which trims the term and removes its sign before it looks for
a star, and for one who looks for the star first (`readTerm_append_star`,
`hasCoefficient_append_star_iff`).
-/

namespace LinearProgram

/-! ## One form for a text -/

theorem isDigit_of_head?_name {name : Name} {c : Char} (h : name.1.head? = some c) :
    isDigit c = false := by
  obtain ⟨s, hs⟩ := name
  cases s with
  | nil => simp at h
  | cons d s =>
    obtain rfl : d = c := by simpa using h
    simp only [isName, Bool.and_eq_true, Bool.not_eq_true'] at hs
    exact hs.1.2

/-- A literal begins with a digit, and a name does not. -/
theorem literal_append_ne_name_append (l : Literal) (name : Name) (x y : Text) :
    l.text ++ x ≠ name.1 ++ y := by
  intro h
  obtain ⟨c, rest, hl, hdigit⟩ := (isLiteral_iff_exists.2 ⟨l, rfl⟩).exists_digit
  have hhead : name.1.head? = some c := by
    have := congrArg List.head? h
    rw [List.head?_append_of_ne_nil _ name.ne_nil, hl] at this
    exact this.symm
  rw [isDigit_of_head?_name hhead] at hdigit
  exact absurd hdigit (by decide)

/-- The factor ends at its star, or there is none, and the name ends where its word does. -/
theorem factorText_append_inj {factor factor' : Option Factor} {name name' : Name} {x y : Text}
    (hx : Text.Stops isWord x) (hy : Text.Stops isWord y)
    (h : factorText factor ++ (name.1 ++ x) = factorText factor' ++ (name'.1 ++ y)) :
    factor = factor' ∧ name = name' ∧ x = y := by
  have hname {n n' : Name} (h : n.1 ++ x = n'.1 ++ y) : n = n' ∧ x = y := by
    obtain ⟨hn, hrest⟩ := Text.append_inj_of_stops (fun _ => isWord_of_isName n.2)
      (fun _ => isWord_of_isName n'.2) hx hy h
    exact ⟨Subtype.ext hn, hrest⟩
  have hstar (rest : Text) : Text.Stops isBlank ('*' :: rest) := Text.stops_cons (by decide) rest
  have hliteral (blanks : Blanks) (rest : Text) :
      Text.Stops Literal.isPart (blanks.1 ++ '*' :: rest) :=
    Text.Stops.append_of_forall (Text.stops_cons (by decide) rest) fun c hc =>
      Literal.isPart_of_isBlank (blanks.2 c hc)
  cases factor with
  | none =>
    cases factor' with
    | none => exact ⟨rfl, hname h⟩
    | some factor' =>
      simp only [factorText, List.append_assoc, List.nil_append] at h
      exact absurd h.symm (literal_append_ne_name_append _ _ _ _)
  | some factor =>
    cases factor' with
    | none =>
      simp only [factorText, List.append_assoc, List.nil_append] at h
      exact absurd h (literal_append_ne_name_append _ _ _ _)
    | some factor' =>
      simp only [factorText, List.append_assoc, List.cons_append] at h
      obtain ⟨hl, h⟩ := Literal.append_inj (hliteral factor.before _) (hliteral factor'.before _) h
      obtain ⟨hbefore, h⟩ := Text.append_inj_of_stops factor.before.2 factor'.before.2
        (hstar _) (hstar _) h
      obtain ⟨hafter, h⟩ := Text.append_inj_of_stops factor.after.2 factor'.after.2
        (name.trimmed.stops_isBlank.append name.ne_nil x)
        (name'.trimmed.stops_isBlank.append name'.ne_nil y) (List.cons.inj h).2
      exact ⟨congrArg some (Factor.ext hl (Subtype.ext hbefore) (Subtype.ext hafter)), hname h⟩

/-- **A text is a term in one way.** -/
theorem TermForm.text_injective : Function.Injective TermForm.text := by
  intro f g h
  have hcore (f : TermForm) : Text.Stops isBlank (f.core ++ f.after.1) :=
    f.trimmed_core.stops_isBlank.append f.core_ne_nil f.after.1
  have hafter (blanks : Blanks) : Text.Stops isWord blanks.1 :=
    Text.stops_of_forall fun c hc => isWord_of_isBlank (blanks.2 c hc)
  have hblank (f : TermForm) :
      Text.Stops isBlank (factorText f.factor ++ (f.name.1 ++ f.after.1)) := by
    rw [← List.append_assoc]
    exact (trimmed_factorText_append f.factor f.name).stops_isBlank.append
      (by simp [f.name.ne_nil]) f.after.1
  have hminus (f : TermForm) :
      (factorText f.factor ++ (f.name.1 ++ f.after.1)).head? ≠ some '-' := by
    rw [← List.append_assoc, List.head?_append_of_ne_nil _ (by simp [f.name.ne_nil])]
    exact head?_factorText_append f.factor f.name
  simp only [text, List.append_assoc] at h
  obtain ⟨hbefore, h⟩ := Text.append_inj_of_stops f.before.2 g.before.2 (hcore f) (hcore g) h
  simp only [core, List.append_assoc] at h
  obtain ⟨hsign, h⟩ := minusText_append_inj (hblank f) (hblank g) (hminus f) (hminus g) h
  obtain ⟨hfactor, hname, hblanks⟩ := factorText_append_inj (hafter f.after) (hafter g.after) h
  exact TermForm.ext (Subtype.ext hbefore) hsign hfactor hname (Subtype.ext hblanks)

/-- A text is a sum in one way. -/
theorem sumText_inj {forms forms' : List TermForm} (hforms : forms ≠ []) (hforms' : forms' ≠ [])
    (h : sumText forms = sumText forms') : forms = forms' := by
  have hpieces := congrArg (fun s : Text => s.splitOn '+') h
  simp only [splitOn_sumText hforms, splitOn_sumText hforms'] at hpieces
  exact TermForm.text_injective.list_map hpieces

/-- There is one piece more than there are separators. -/
theorem Text.length_splitOn (c : Char) (s : Text) : (s.splitOn c).length = s.count c + 1 := by
  induction s using separator_induction (c := c) with
  | last s hmem => rw [List.splitOn_eq_singleton hmem, List.count_eq_zero_of_not_mem hmem]; rfl
  | cut first rest hfirst ih =>
    rw [splitOn_append_cons, List.length_append, ih, List.splitOn_eq_singleton hfirst,
      List.count_append, List.count_cons_self, List.count_eq_zero_of_not_mem hfirst,
      List.length_singleton]
    omega

/-! ## Bad terms -/

/-- The text is a term. -/
def IsTerm (s : Text) : Prop := ∃ f : TermForm, f.text = s

/-- What stands before the first star of a text, behind its sign and without the blanks around it,
is the coefficient, where anything stands there. Without a sign, it does not begin with a minus. -/
def HasCoefficient (s coefficient : Text) : Prop :=
  ∃ (before : Blanks) (minus : Option Blanks) (left right : Text),
    s = before.1 ++ (minusText minus ++ (left ++ '*' :: right)) ∧ '*' ∉ left ∧
      Text.trim left = coefficient ∧ coefficient ≠ [] ∧
      (minus = none → coefficient.head? ≠ some '-')

/-- What a bad term is refused for: a misread coefficient, if it has one, and else a part that is
missing. -/
structure Fault.CausedBy (bad : Text) (fault : Fault) : Prop where
  literal_iff : ∀ literal,
    fault.cause = .invalidLiteral literal ↔ HasCoefficient bad literal ∧ ¬IsLiteral literal
  otherwise : (∀ literal, fault.cause ≠ .invalidLiteral literal) →
    ∃ defect, fault.cause = .incomplete defect

variable {s q statement : Text} {fault : Fault}

theorem splitMinus_of_head?_ne (h : s.head? ≠ some '-') : splitMinus s = (false, s) := by
  unfold splitMinus
  split
  · simp at h
  · rfl

theorem star_not_mem_minusText (minus : Option Blanks) : '*' ∉ minusText minus := by
  cases minus with
  | none => simp [minusText]
  | some blanks =>
    simp [minusText, not_mem_blanks_of_mem_punctuation (c := '*') (by decide) blanks]

/-- Without a sign, a text does not begin with a minus. -/
theorem head?_splitMinus_ne (h : (splitMinus s).1 = false) :
    (splitMinus s).2.head? ≠ some '-' := by
  have hhead : s.head? ≠ some '-' := fun hhead => by
    cases s with
    | nil => simp at hhead
    | cons c s =>
      obtain rfl : c = '-' := by simpa using hhead
      simp [splitMinus] at h
  rwa [splitMinus_of_head?_ne hhead]

/-- The coefficient is what the reader makes of the text before the star. -/
theorem HasCoefficient.splitMinus_trim {right coefficient : Text} (hq : '*' ∉ q)
    (h : HasCoefficient (q ++ '*' :: right) coefficient) :
    (splitMinus (Text.trim q)).2 = coefficient ∧ coefficient ≠ [] := by
  obtain ⟨before, minus, left, behind, hs, hleft, rfl, hne, hsign⟩ := h
  have hq' : q = before.1 ++ (minusText minus ++ left) := by
    have hbefore := not_mem_blanks_of_mem_punctuation (c := '*') (by decide) before
    have hfree : '*' ∉ before.1 ++ (minusText minus ++ left) := by
      simp [hbefore, star_not_mem_minusText, hleft]
    rw [← Text.takeWhile_append_cons hq right, hs,
      ← Text.takeWhile_append_cons hfree behind]
    simp only [List.append_assoc]
  obtain ⟨u, v, hu, hv, htrim⟩ := Text.exists_eq_append_trim_append left
  obtain ⟨before', minus', hminus', hsplit⟩ := exists_minusText_append before minus ⟨u, hu⟩
  have hparts : q = before'.1 ++ (minusText minus' ++ Text.trim left) ++ v := by
    calc q = before.1 ++ (minusText minus ++ u) ++ (Text.trim left ++ v) := by
          rw [hq']
          conv_lhs => rw [htrim]
          simp only [List.append_assoc]
      _ = _ := by rw [hsplit]; simp only [List.append_assoc]
  have htrimmed := trimmed_minusText_append minus' (Text.trimmed_trim left) hne
  rw [hparts, htrimmed.trim_append before'.2 hv,
    splitMinus_minusText_append minus' (Text.trimmed_trim left) fun hnone => hsign ?_]
  · exact ⟨rfl, hne⟩
  · simpa [hnone] using hminus'

/-- What the reader makes of the text before the star is the coefficient. -/
theorem hasCoefficient_splitMinus_trim (hq : '*' ∉ q) (right : Text)
    (hne : (splitMinus (Text.trim q)).2 ≠ []) :
    HasCoefficient (q ++ '*' :: right) (splitMinus (Text.trim q)).2 := by
  obtain ⟨u, v, hu, hv, htrim⟩ := Text.exists_eq_append_trim_append q
  obtain ⟨minus, after, hrest, hminus⟩ := exists_of_splitMinus (Text.trim q)
  have htrimmed := trimmed_splitMinus (Text.trimmed_trim q)
  refine ⟨⟨u, hu⟩, minus, (splitMinus (Text.trim q)).2 ++ after.1 ++ v, right, ?_, ?_, ?_, hne,
    fun hnone => head?_splitMinus_ne (by rw [hminus, hnone]; rfl)⟩
  · conv_lhs => rw [htrim, hrest]
    simp only [List.append_assoc]
  · have hmem : '*' ∉ Text.trim q := fun h => hq ((Text.trim_isInfix q).subset h)
    rw [hrest] at hmem
    have hblank := not_mem_blanks_of_mem_punctuation (c := '*') (by decide) ⟨v, hv⟩
    simp only [List.mem_append, not_or] at hmem ⊢
    exact ⟨⟨hmem.1.2, hmem.2⟩, hblank⟩
  · rw [List.append_assoc]
    exact htrimmed.trim_append_right (after.2.append hv)

/-- **The coefficient** is what stands before the star, trimmed and without its sign. -/
theorem hasCoefficient_append_star_iff (hq : '*' ∉ q) (right coefficient : Text) :
    HasCoefficient (q ++ '*' :: right) coefficient ↔
      (splitMinus (Text.trim q)).2 = coefficient ∧ coefficient ≠ [] := by
  constructor
  · exact HasCoefficient.splitMinus_trim hq
  · rintro ⟨rfl, hne⟩
    exact hasCoefficient_splitMinus_trim hq right hne

theorem star_mem_of_hasCoefficient {coefficient : Text} (h : HasCoefficient s coefficient) :
    '*' ∈ s := by
  obtain ⟨before, minus, left, right, rfl, -⟩ := h
  simp

/-- The reader trims a term and removes its sign before it looks for the star. What stands before
the star is the same then, up to the blanks around it. -/
theorem exists_splitMinus_trim_append_star (hq : '*' ∉ q) (right : Text) :
    ∃ left right', '*' ∉ left ∧ Text.trim left = (splitMinus (Text.trim q)).2 ∧
      splitMinus (Text.trim (q ++ '*' :: right)) =
        ((splitMinus (Text.trim q)).1, left ++ '*' :: right') := by
  have hstar : isBlank '*' = false := by decide
  have hfree : '*' ∉ Text.trimStart q := fun h => hq ((Text.trimStart_suffix q).subset h)
  have htrim : Text.trim q = Text.trimEnd (Text.trimStart q) := rfl
  have hsame := Text.trim_trimStart q
  rw [Text.trim_append_cons hstar]
  have hstops := Text.stops_trimStart q
  generalize Text.trimStart q = rest at hfree htrim hsame hstops
  cases rest with
  | nil =>
    rw [htrim]
    exact ⟨[], Text.trimEnd right, by simp, rfl, rfl⟩
  | cons c rest =>
    have hend : Text.trimEnd (c :: rest) = c :: Text.trimEnd rest := by
      simpa using Text.trimEnd_append_cons (hstops c rfl) [] rest
    by_cases hc : c = '-'
    · subst hc
      obtain ⟨v, hv, hrest⟩ := Text.exists_eq_trimEnd_append rest
      refine ⟨Text.trimStart rest, Text.trimEnd (Text.trimEnd right), fun h => hfree ?_, ?_, ?_⟩
      · exact List.mem_cons_of_mem _ ((Text.trimStart_suffix rest).subset h)
      · rw [htrim, hend, Text.trim_trimStart]
        conv_lhs => rw [hrest, Text.trim_append_of_blank hv]
        rfl
      · rw [htrim, hend]
        show (true, Text.trim (rest ++ '*' :: Text.trimEnd right)) = _
        rw [Text.trim_append_cons hstar]
        rfl
    · have hne (x : Text) : (c :: x).head? ≠ some '-' := by simpa using hc
      refine ⟨c :: rest, Text.trimEnd right, hfree, ?_, ?_⟩
      · rw [htrim, hend, splitMinus_of_head?_ne (hne _), ← hend, ← htrim, hsame]
      · rw [htrim, hend, splitMinus_of_head?_ne (hne _), List.cons_append,
          splitMinus_of_head?_ne (hne _)]

/-- How a term is read on the two sides of its first star. -/
theorem readTerm_append_star (hq : '*' ∉ q) (right : Text)
    (h : readTerm (some statement) (q ++ '*' :: right) = .error fault) :
    (∃ literal, HasCoefficient (q ++ '*' :: right) literal ∧ ¬IsLiteral literal ∧
      fault = ⟨.invalidLiteral literal, some statement⟩) ∨
    (∀ literal, HasCoefficient (q ++ '*' :: right) literal → IsLiteral literal) ∧
      ∃ defect, fault = Cause.inStatement (.incomplete defect) statement := by
  obtain ⟨left, right', hleft, hsame, hsplit⟩ := exists_splitMinus_trim_append_star hq right
  have hne : (Text.trim (q ++ '*' :: right)).isEmpty = false := by
    rw [Text.trim_append_cons (by decide)]
    simp
  simp only [readTerm, Option.getD_some, hne, Bool.false_eq_true, if_false, hsplit,
    splitFactor_append_star hleft, hsame] at h
  simp only [hasCoefficient_append_star_iff hq]
  generalize (splitMinus (Text.trim q)).2 = literal at h
  by_cases hnil : literal = []
  · simp only [hnil, List.isEmpty_nil, if_true, Except.error.injEq] at h
    exact Or.inr ⟨by rintro _ ⟨rfl, hne⟩; exact absurd hnil hne, _, h.symm⟩
  · rw [if_neg (by simpa using hnil)] at h
    cases hread : readLiteral? literal with
    | none =>
      simp only [hread, Except.error.injEq] at h
      exact Or.inl ⟨literal, ⟨rfl, hnil⟩, readLiteral?_eq_none_iff.1 hread, h.symm⟩
    | some value =>
      obtain ⟨l, hl, -⟩ := readLiteral?_eq_some_iff.1 hread
      simp only [hread] at h
      split at h
      · simp at h
      · refine Or.inr ⟨?_, _, (Except.error.inj h).symm⟩
        rintro _ ⟨rfl, -⟩
        exact isLiteral_iff_exists.2 ⟨l, hl⟩

/-- Without a star, a term that is refused lacks a part. -/
theorem readTerm_of_star_not_mem (hs : '*' ∉ s)
    (h : readTerm (some statement) s = .error fault) :
    ∃ defect, fault = Cause.inStatement (.incomplete defect) statement := by
  have hrest : '*' ∉ (splitMinus (Text.trim s)).2 := fun hmem => by
    obtain ⟨minus, after, hsplit, -⟩ := exists_of_splitMinus (Text.trim s)
    refine hs ((Text.trim_isInfix s).subset ?_)
    rw [hsplit]
    simp [hmem]
  have hfactor : splitFactor statement (splitMinus (Text.trim s)).2 =
      .ok (1, (splitMinus (Text.trim s)).2) := by
    simp [splitFactor, hrest]
  simp only [readTerm, Option.getD_some, hfactor] at h
  split at h
  · exact ⟨_, (Except.error.inj h).symm⟩
  · split at h
    · simp at h
    · exact ⟨_, (Except.error.inj h).symm⟩

/-- A text has one coefficient at most. -/
theorem HasCoefficient.unique {coefficient coefficient' : Text}
    (h : HasCoefficient s coefficient) (h' : HasCoefficient s coefficient') :
    coefficient = coefficient' := by
  obtain ⟨q, right, rfl, hq⟩ := List.eq_append_cons_of_mem (star_mem_of_hasCoefficient h)
  rw [hasCoefficient_append_star_iff hq] at h h'
  exact h.1.symm.trans h'.1

/-- **The fault of a bad term.** -/
theorem causedBy_of_readTerm (h : readTerm (some statement) s = .error fault) :
    fault.statement = some statement ∧ fault.CausedBy s := by
  have hcases : (∃ literal, HasCoefficient s literal ∧ ¬IsLiteral literal ∧
        fault = ⟨.invalidLiteral literal, some statement⟩) ∨
      (∀ literal, HasCoefficient s literal → IsLiteral literal) ∧
        ∃ defect, fault = Cause.inStatement (.incomplete defect) statement := by
    by_cases hstar : '*' ∈ s
    · obtain ⟨q, right, rfl, hq⟩ := List.eq_append_cons_of_mem hstar
      exact readTerm_append_star hq right h
    · exact Or.inr ⟨fun _ hc => absurd (star_mem_of_hasCoefficient hc) hstar,
        readTerm_of_star_not_mem hstar h⟩
  rcases hcases with ⟨literal, hc, hliteral, rfl⟩ | ⟨hliteral, defect, rfl⟩
  · refine ⟨rfl, fun other => ⟨fun h => ?_, fun h => ?_⟩, fun h => absurd rfl (h literal)⟩
    · obtain rfl : literal = other := by simpa using h
      exact ⟨hc, hliteral⟩
    · rw [hc.unique h.1]
  · refine ⟨rfl, fun other => ⟨fun h => ?_, fun h => ?_⟩, fun _ => ⟨defect, rfl⟩⟩
    · simp [Cause.inStatement] at h
    · exact absurd (hliteral other h.1) h.2

/-! ## Sums -/

/-- A sum that is refused is refused for its first bad term. -/
theorem exists_bad_of_readTerms {statement : Option Text} {e : Text}
    (h : readTerms statement e = .error fault) :
    ∃ before bad after, e.splitOn '+' = before ++ bad :: after ∧
      (∀ piece ∈ before, IsTerm piece) ∧ ¬IsTerm bad ∧
      fault.statement = some (statement.getD e) ∧ fault.CausedBy bad := by
  have hbad {bad : Text} (h : readTerm (some (statement.getD e)) bad = .error fault) :
      ¬IsTerm bad := by
    rintro ⟨f, rfl⟩
    simp [readTerm_text] at h
  simp only [readTerms] at h
  split at h
  · -- Blanks alone are one bad term.
    rename_i hempty
    have hblank : Text.Blank e := Text.blank_of_trim_eq_nil (by simpa using hempty)
    have hplus : '+' ∉ e := not_mem_blanks_of_mem_punctuation (by decide) ⟨e, hblank⟩
    have hstar : '*' ∉ e := not_mem_blanks_of_mem_punctuation (by decide) ⟨e, hblank⟩
    obtain rfl : _ = fault := by simpa using h
    refine ⟨[], e, [], List.splitOn_eq_singleton hplus, by simp, ?_, rfl, fun literal => ?_,
      fun _ => ⟨_, rfl⟩⟩
    · rintro ⟨f, rfl⟩
      rw [f.trim_text] at hempty
      exact f.core_ne_nil (by simpa using hempty)
    · refine ⟨fun h => ?_, fun h => absurd (star_mem_of_hasCoefficient h.1) hstar⟩
      simp [Cause.inStatement] at h
  · obtain ⟨before, bad, after, hsplit, hbefore, hread⟩ := mapM_eq_error_iff.1 h
    refine ⟨before, bad, after, hsplit, fun piece hpiece => ?_, hbad hread,
      causedBy_of_readTerm hread⟩
    obtain ⟨t, ht⟩ := hbefore piece hpiece
    obtain ⟨f, hf, -⟩ := exists_of_readTerm ht
    exact ⟨f, hf⟩

/-- **Sums, and nothing else.** A text is read as a sum exactly when it is the texts of terms, at
least one, with plus signs between them. It is that in one way, and the result has one term for each
of them, in order. A text that is refused is refused for the first piece that is no term. -/
theorem readTerms_reads_sums (statement : Option Text) (e : Text) :
    (∀ ts, readTerms statement e = .ok ts ↔
      ∃ forms : List TermForm, forms ≠ [] ∧ sumText forms = e ∧ forms.map TermForm.term = ts) ∧
    (∀ forms forms' : List TermForm, forms ≠ [] → forms' ≠ [] → sumText forms = e →
      sumText forms' = e → forms = forms') ∧
    (∀ ts, readTerms statement e = .ok ts → ts.length = e.count '+' + 1) ∧
    ∀ fault, readTerms statement e = .error fault →
      ∃ before bad after, e.splitOn '+' = before ++ bad :: after ∧
        (∀ piece ∈ before, IsTerm piece) ∧ ¬IsTerm bad ∧
        fault.statement = some (statement.getD e) ∧ fault.CausedBy bad := by
  refine ⟨fun ts => readTerms_eq_ok_iff, ?_, fun ts h => ?_, fun fault h => ?_⟩
  · intro forms forms' hforms hforms' h h'
    exact sumText_inj hforms hforms' (h.trans h'.symm)
  · obtain ⟨forms, hne, rfl, rfl⟩ := readTerms_eq_ok_iff.1 h
    rw [← Text.length_splitOn, splitOn_sumText hne, List.length_map, List.length_map]
  · exact exists_bad_of_readTerms h

/-- A sum of three terms, with digits of another script. -/
def threeTerms : Text := "-٣.5 * x +y+ 2.*y".toList

/-- A second minus where a literal should be, before a term with nothing before its star. -/
def misreadSum : Text := "x + y + - -2*z + *w".toList

theorem readTerms_reads_sums_misread :
    (∃ ts, readTerms none threeTerms = .ok ts ∧ ts.length = 3) ∧
    readTerms none misreadSum = .error ⟨.invalidLiteral "-2".toList, some misreadSum⟩ ∧
    ∃ before bad after, misreadSum.splitOn '+' = before ++ bad :: after ∧
      (∀ piece ∈ before, IsTerm piece) ∧ ¬IsTerm bad ∧ HasCoefficient bad "-2".toList ∧
      ¬IsLiteral "-2".toList := by
  have hok : (readTerms none threeTerms).toBool = true := by decide +kernel
  have hread : readTerms none misreadSum =
      .error ⟨.invalidLiteral "-2".toList, some misreadSum⟩ := by decide +kernel
  obtain ⟨-, -, hlength, -⟩ := readTerms_reads_sums none threeTerms
  obtain ⟨-, -, -, hfault⟩ := readTerms_reads_sums none misreadSum
  refine ⟨?_, hread, ?_⟩
  · cases hterms : readTerms none threeTerms with
    | error fault => simp [hterms, Except.toBool] at hok
    | ok ts => exact ⟨ts, rfl, (hlength ts hterms).trans (by decide +kernel)⟩
  · obtain ⟨before, bad, after, hsplit, hbefore, hbad, -, hcause⟩ := hfault _ hread
    exact ⟨before, bad, after, hsplit, hbefore, hbad, (hcause.literal_iff _).1 rfl⟩

end LinearProgram
