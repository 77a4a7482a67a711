import LinearProgram.Proofs.Notation.SumGrammar
import LinearProgram.Proofs.Notation.Writing
import LinearProgram.Proofs.Number.SixDigits

/-!
# Reading displayed sums

Displays look like the notation, but six digits are not always a literal of it: an infinity or a
number with a power of ten behind its digits is none. A displayed sum is read again exactly when it
has a term and all its coefficients are written out (`Number.WrittenOut`), and what is read are the
numbers nearest to the six digits (`Number.ReadBack`).

**Written out** (`exists_writtenTerm`). Such a term is one of the terms that the notation can be
written with, and reading it and displaying it again does not change its text.

**With a power of ten** (`exists_bad_piece`). A power with a minus makes a coefficient that is no
literal. A power with a plus is worse, for the plus ends the term: before it stands a text without a
star that begins with a digit, so it is not even a name. Either way a piece of the sum is no term,
whatever the other terms are, so nothing is read as a different sum.
-/

namespace LinearProgram

/-! ## Numbers -/

namespace Number

/-- The number is displayed with all its digits and no power of ten. -/
def WrittenOut : Number → Prop
  | .finite _ m => m.WrittenOut
  | .infinite _ => False
  | .undefined => False

/-- The second number is read where the first is displayed: it has the same sign, also of zero, and
is nearest to the six digits of the first, which are the literal that stands in the display. -/
inductive ReadBack : Number → Number → Prop
  | zero (negative : Bool) : ReadBack (.finite negative .zero) (.finite negative .zero)
  | rounded (negative : Bool) {m m' : Magnitude} {d : Decimal} {l : Literal} :
      d.Rounds 6 m.toRat → (10 : Rat) ^ (-4 : Int) ≤ d.toRat → d.toRat < (10 : Rat) ^ (6 : Int) →
      NumberFormat.general.write (.finite negative m) = signText negative ++ l.text →
      l.decimal.toRat = d.toRat → m'.IsNearest d.toRat →
      ReadBack (.finite negative m) (.finite negative m')

end Number

theorem NumberFormat.write_finite (negative : Bool) (m : Magnitude) :
    general.write (.finite negative m) = signText negative ++ general.writeMagnitude m := by
  cases negative <;> rfl

namespace Magnitude

variable {m m' : Magnitude}

theorem exists_nearest?_sixDigits (h : m.WrittenOut) :
    ∃ m', nearest? m.sixDigits.toRat = some m' := by
  by_cases hzero : m.significand = 0
  · rw [toRat_sixDigits_of_zero hzero]
    exact ⟨_, nearest?_zero⟩
  · obtain ⟨hlow, hhigh⟩ := (writtenOut_iff hzero).1 h
    exact exists_nearest?_eq_some (Decimal.toRat_pos (sixDigits_ne_zero hzero))
      (orderOf_two_of_bounds hlow hhigh).2

theorem readBack_of_nearest? (negative : Bool) (h : m.WrittenOut)
    (hnearest : nearest? m.sixDigits.toRat = some m') :
    Number.ReadBack (.finite negative m) (.finite negative m') := by
  by_cases hzero : m.significand = 0
  · rw [toRat_sixDigits_of_zero hzero, nearest?_zero] at hnearest
    obtain rfl := Option.some.inj hnearest
    rw [eq_zero_of_significand hzero]
    exact .zero negative
  · obtain ⟨hlow, hhigh⟩ := (writtenOut_iff hzero).1 h
    obtain ⟨l, htext, hdecimal⟩ := NumberFormat.exists_literal_writeMagnitude h
    exact .rounded negative (sixDigits_rounds hzero) hlow hhigh
      (by rw [NumberFormat.write_finite, htext]) hdecimal
      (nearest?_isNearest (Decimal.toRat_pos (sixDigits_ne_zero hzero)) hnearest)

end Magnitude

/-- A number is written out exactly when it is displayed as a literal behind its sign. -/
theorem Number.writtenOut_iff_exists_literal {x : Number} : x.WrittenOut ↔
    ∃ (negative : Bool) (l : Literal),
      NumberFormat.general.write x = signText negative ++ l.text := by
  constructor
  · intro h
    cases x with
    | finite negative m =>
      obtain ⟨l, htext, -⟩ := NumberFormat.exists_literal_writeMagnitude h
      exact ⟨negative, l, by rw [NumberFormat.write_finite, htext]⟩
    | infinite negative => exact h.elim
    | undefined => exact h.elim
  · rintro ⟨negative, l, htext⟩
    -- The other displays have a letter in them.
    have hletter {c : Char} (hc : c ∈ ['e', 'i', 'n']) :
        c ∉ NumberFormat.general.write x := by
      have hdigit : isDigit c = false ∧ c ≠ '.' ∧ c ≠ '-' := by
        simp only [List.mem_cons, List.not_mem_nil, or_false] at hc
        rcases hc with rfl | rfl | rfl <;> decide
      rw [htext, List.mem_append, not_or]
      refine ⟨?_, l.not_mem_text hdigit.1 hdigit.2.1⟩
      cases negative <;> simp [signText, hdigit.2.2]
    cases x with
    | finite minus m =>
      by_contra h
      obtain ⟨l', e, htext'⟩ := NumberFormat.exists_literal_writeMagnitude_append h
      refine hletter (c := 'e') (by decide) ?_
      rw [NumberFormat.write_finite, ← htext']
      simp [NumberFormat.writeExponent]
    | infinite minus => exact absurd (by cases minus <;> decide) (hletter (c := 'i') (by decide))
    | undefined => exact absurd (by decide) (hletter (c := 'n') (by decide))

variable {t : Term Number} {ts : List (Term Number)} {s coefficient : Text}

/-! ## Terms that are written out -/

/-- How a term is related to the one that is read where it is displayed. -/
def Term.ReadBack (t u : Term Number) : Prop :=
  u.name = t.name ∧ t.coefficient.ReadBack u.coefficient

/-- **A term that is written out** can be written in the notation, and displays as it is read. -/
theorem exists_writtenTerm (hname : isName t.name = true) (h : t.coefficient.WrittenOut) :
    ∃ w : WrittenTerm, w.text = t.write ∧ t.ReadBack w.term ∧ w.term.write = t.write := by
  obtain ⟨name, x⟩ := t
  cases x with
  | infinite negative => exact h.elim
  | undefined => exact h.elim
  | finite negative m =>
    obtain ⟨l, htext, hdecimal⟩ := NumberFormat.exists_literal_writeMagnitude h
    obtain ⟨m', hnearest⟩ := Magnitude.exists_nearest?_sixDigits h
    have hvalue : applySign negative l.value = .finite negative m' := by
      rw [Literal.value, Decimal.toNumber_eq_ofMagnitude, hdecimal, Number.ofMagnitude, hnearest]
      cases negative <;> rfl
    let w : WrittenTerm := ⟨negative, some l, ⟨name, hname⟩⟩
    have hterm : w.term = ⟨name, .finite negative m'⟩ := by
      rw [← hvalue]
      rfl
    refine ⟨w, ?_, ?_, ?_⟩
    · simp only [w, WrittenTerm.text, Term.write, NumberFormat.write_finite, htext, List.append_assoc]
    · rw [hterm]
      exact ⟨rfl, Magnitude.readBack_of_nearest? negative h hnearest⟩
    · rw [hterm]
      simp only [Term.write, NumberFormat.write_finite,
        NumberFormat.writeMagnitude_nearest? h hnearest]

/-- The terms of a sum that is written out. -/
theorem exists_writtenTerms (hnames : ∀ t ∈ ts, isName t.name = true)
    (h : ∀ t ∈ ts, t.coefficient.WrittenOut) :
    ∃ ws : List WrittenTerm, ws.map WrittenTerm.text = ts.map Term.write ∧
      List.Forall₂ Term.ReadBack ts (ws.map WrittenTerm.term) ∧
      (ws.map WrittenTerm.term).map Term.write = ts.map Term.write := by
  induction ts with
  | nil => exact ⟨[], rfl, .nil, rfl⟩
  | cons t ts ih =>
    rw [List.forall_mem_cons] at hnames h
    obtain ⟨w, htext, hread, hwrite⟩ := exists_writtenTerm hnames.1 h.1
    obtain ⟨ws, htexts, hreads, hwrites⟩ := ih hnames.2 h.2
    exact ⟨w :: ws, by simp only [List.map_cons, htext, htexts], .cons hread hreads,
      by simp only [List.map_cons, hwrite, hwrites]⟩

/-- **A sum that is written out** is read, and displays as before. -/
theorem readTerms_of_writtenOut (hne : ts ≠ []) (hnames : ∀ t ∈ ts, isName t.name = true)
    (h : ∀ t ∈ ts, t.coefficient.WrittenOut) :
    ∃ us, readTerms none (writeTerms ts) = .ok us ∧ List.Forall₂ Term.ReadBack ts us ∧
      writeTerms us = writeTerms ts := by
  obtain ⟨ws, htexts, hreads, hwrites⟩ := exists_writtenTerms hnames h
  have hws : ws ≠ [] := by
    rintro rfl
    exact hne (List.map_eq_nil_iff.1 htexts.symm)
  have hsum : writtenSum ws = writeTerms ts := by rw [writtenSum, writeTerms, htexts]
  refine ⟨ws.map WrittenTerm.term, ?_, hreads, by rw [writeTerms, hwrites, writeTerms]⟩
  simpa [noBlanks, hsum] using readTerms_writtenSum noBlanks noBlanks hws

/-! ## Pieces that are no terms -/

/-- What stands before the star of a term is a literal. -/
theorem TermForm.isLiteral_of_hasCoefficient (f : TermForm)
    (h : HasCoefficient f.text coefficient) : IsLiteral coefficient := by
  cases hfactor : f.factor with
  | none =>
    -- Without a factor there is no star.
    have hstar : '*' ∉ f.text := by
      simp only [text, core, hfactor, factorText, List.nil_append, List.mem_append, not_or]
      exact ⟨⟨not_mem_blanks_of_mem_punctuation (by decide) f.before,
        star_not_mem_minusText f.minus, not_mem_name_of_mem_punctuation (by decide) f.name⟩,
        not_mem_blanks_of_mem_punctuation (by decide) f.after⟩
    exact absurd (star_mem_of_hasCoefficient h) hstar
  | some factor =>
    have hliteral : HasCoefficient f.text factor.literal.text := by
      refine ⟨f.before, f.minus, factor.literal.text ++ factor.before.1,
        factor.after.1 ++ (f.name.1 ++ f.after.1), ?_,
        star_not_mem_literal_append factor.literal factor.before,
        factor.literal.trimmed_text.trim_append_right factor.before.2, factor.literal.text_ne_nil,
        fun _ hhead => factor.literal.not_mem_text (by decide) (by decide)
          (List.mem_of_head? hhead)⟩
      simp [text, core, hfactor, factorText]
    rw [h.unique hliteral]
    exact isLiteral_iff_exists.2 ⟨_, rfl⟩

theorem not_isTerm_of_hasCoefficient (h : HasCoefficient s coefficient)
    (hliteral : ¬IsLiteral coefficient) : ¬IsTerm s := by
  rintro ⟨f, rfl⟩
  exact hliteral (f.isLiteral_of_hasCoefficient h)

/-- A text with a letter in it is no literal. -/
theorem not_isLiteral_of_mem {c : Char} (hc : c ∈ s) (hdigit : isDigit c = false)
    (hpoint : c ≠ '.') : ¬IsLiteral s := by
  rw [isLiteral_iff_exists]
  rintro ⟨l, rfl⟩
  exact l.not_mem_text hdigit hpoint hc

/-- A term does not begin with a literal unless a star follows. -/
theorem not_isTerm_of_literal (minus : Bool) (l : Literal) {rest : Text}
    (hstar : '*' ∉ rest) : ¬IsTerm (signText minus ++ (l.text ++ rest)) := by
  rintro ⟨f, hf⟩
  have hfactor : f.factor = none := by
    by_contra hsome
    obtain ⟨factor, hfactor⟩ := Option.ne_none_iff_exists'.1 hsome
    have hmem : '*' ∈ f.text := by simp [TermForm.text, TermForm.core, hfactor, factorText]
    rw [hf] at hmem
    have hsign : '*' ∉ signText minus := by cases minus <;> decide
    have hliteral : '*' ∉ l.text := l.not_mem_text (by decide) (by decide)
    simp [hsign, hliteral, hstar] at hmem
  have hblank : Text.Stops isBlank (l.text ++ rest) :=
    l.trimmed_text.stops_isBlank.append l.text_ne_nil rest
  have hhead : (l.text ++ rest).head? ≠ some '-' := by
    rw [List.head?_append_of_ne_nil _ l.text_ne_nil]
    exact fun h => l.not_mem_text (by decide) (by decide) (List.mem_of_head? h)
  have hbegin : Text.Stops isBlank (minusText (signForm minus) ++ (l.text ++ rest)) := by
    rw [← List.append_assoc]
    exact (trimmed_minusText_append _ l.trimmed_text l.text_ne_nil).stops_isBlank.append
      (by simp [l.text_ne_nil]) rest
  have hname : Text.Stops isBlank (f.name.1 ++ f.after.1) :=
    f.name.trimmed.stops_isBlank.append f.name.ne_nil f.after.1
  have hminus : (f.name.1 ++ f.after.1).head? ≠ some '-' := by
    rw [List.head?_append_of_ne_nil _ f.name.ne_nil]
    exact fun h => not_mem_name_of_mem_punctuation (by decide) f.name (List.mem_of_head? h)
  have hsplit : f.before.1 ++ (f.core ++ f.after.1) =
      noBlanks.1 ++ (minusText (signForm minus) ++ (l.text ++ rest)) := by
    rw [minusText_signForm, ← List.append_assoc]
    exact hf
  obtain ⟨-, hcore⟩ := Text.append_inj_of_stops f.before.2 noBlanks.2
    (f.trimmed_core.stops_isBlank.append f.core_ne_nil f.after.1) hbegin hsplit
  simp only [TermForm.core, hfactor, factorText, List.nil_append, List.append_assoc] at hcore
  obtain ⟨-, hrest⟩ := minusText_append_inj hname hblank hminus hhead hcore
  exact literal_append_ne_name_append l f.name rest f.after.1 hrest.symm

/-! ## Terms with a power of ten -/

/-- A word that is no literal in the place of a coefficient. -/
theorem not_isTerm_of_word (minus : Bool) {word : Text} (hne : word ≠ [])
    (hword : ∀ c ∈ word, isBlank c = false ∧ c ≠ '*') (hhead : word.head? ≠ some '-')
    (hliteral : ¬IsLiteral word) (name : Text) :
    ¬IsTerm (signText minus ++ (word ++ '*' :: name)) := by
  refine not_isTerm_of_hasCoefficient ?_ hliteral
  refine ⟨noBlanks, signForm minus, word, name, by simp [noBlanks, minusText_signForm],
    fun hstar => (hword _ hstar).2 rfl,
    Text.trimmed_of_no_blank fun c hc => (hword c hc).1, hne, fun _ => hhead⟩

theorem isBlank_of_char_isDigit {c : Char} (h : c.isDigit = true) : isBlank c = false :=
  isBlank_of_isDigit (isDigit_of_char_isDigit h)

/-- **A power of ten** behind a literal: whatever its sign is, a piece is no term. -/
theorem exists_bad_piece_of_power (minus : Bool) (l : Literal) (e : Int) (name : Name) :
    ∃ piece ∈ (signText minus ++ (l.text ++ NumberFormat.writeExponent e) ++
      '*' :: name.1).splitOn '+', ¬IsTerm piece := by
  obtain ⟨digits, hexponent, hdigits⟩ := NumberFormat.exists_writeExponent e
  have hchar {c : Char} (hc : isDigit c = false) : c ∉ digits := fun hmem => by
    rw [isDigit_of_char_isDigit (hdigits c hmem)] at hc
    exact absurd hc (by decide)
  have hsign : '+' ∉ signText minus := by cases minus <;> decide
  have hplus : '+' ∉ l.text := l.not_mem_text (by decide) (by decide)
  rw [hexponent]
  split_ifs with he
  · -- There is no plus, and the coefficient has a letter in it.
    have hwhole : '+' ∉ signText minus ++ (l.text ++ 'e' :: '-' :: digits) ++ '*' :: name.1 := by
      have hname : '+' ∉ name.1 := not_mem_name_of_mem_punctuation (by decide) name
      simp [hsign, hplus, hname, hchar (c := '+') (by decide)]
    refine ⟨_, by rw [List.splitOn_eq_singleton hwhole]; exact List.mem_singleton_self _, ?_⟩
    rw [List.append_assoc]
    refine not_isTerm_of_word minus (by simp) ?_ ?_
      (not_isLiteral_of_mem (c := 'e') (by simp) (by decide) (by decide)) _
    · simp only [List.forall_mem_append, List.forall_mem_cons]
      refine ⟨fun c hc => ⟨l.isBlank_of_mem_text hc, ?_⟩, by decide, by decide, fun c hc =>
        ⟨isBlank_of_char_isDigit (hdigits c hc), ?_⟩⟩
      · rintro rfl
        exact l.not_mem_text (by decide) (by decide) hc
      · rintro rfl
        exact hchar (by decide) hc
    · rw [List.head?_append_of_ne_nil _ l.text_ne_nil]
      exact fun h => l.not_mem_text (by decide) (by decide) (List.mem_of_head? h)
  · -- The plus ends a piece that has no star.
    have hfirst : '+' ∉ signText minus ++ (l.text ++ ['e']) := by simp [hsign, hplus]
    refine ⟨signText minus ++ (l.text ++ ['e']), ?_, not_isTerm_of_literal minus l (by decide)⟩
    have hsplit : signText minus ++ (l.text ++ 'e' :: '+' :: digits) ++ '*' :: name.1 =
        (signText minus ++ (l.text ++ ['e'])) ++ '+' :: (digits ++ '*' :: name.1) := by simp
    rw [hsplit, Text.splitOn_append_cons, List.splitOn_eq_singleton hfirst]
    exact List.mem_append_left _ (List.mem_singleton_self _)

/-- A word of letters in the place of a coefficient. -/
theorem exists_bad_piece_of_word (minus : Bool) {word : Text} (hne : word ≠ [])
    (hword : word.all (fun c => isWord c && !isDigit c) = true) (name : Name) :
    ∃ piece ∈ (signText minus ++ word ++ '*' :: name.1).splitOn '+', ¬IsTerm piece := by
  have hletter : ∀ c ∈ word, isWord c = true ∧ isDigit c = false := by simpa using hword
  have hmark {c : Char} (hc : c ∈ punctuation) : c ∉ word := fun hmem =>
    not_mem_punctuation_of_isWord (hletter c hmem).1 hc
  have hsign : '+' ∉ signText minus := by cases minus <;> decide
  have hname : '+' ∉ name.1 := not_mem_name_of_mem_punctuation (by decide) name
  have hplus : '+' ∉ signText minus ++ word ++ '*' :: name.1 := by
    simp [hsign, hname, hmark (c := '+') (by decide)]
  refine ⟨_, by rw [List.splitOn_eq_singleton hplus]; exact List.mem_singleton_self _, ?_⟩
  rw [List.append_assoc]
  refine not_isTerm_of_word minus hne (fun c hc => ⟨isBlank_of_isWord (hletter c hc).1, ?_⟩) ?_ ?_ _
  · rintro rfl
    exact hmark (by decide) hc
  · exact fun h => hmark (by decide) (List.mem_of_head? h)
  · intro hliteral
    obtain ⟨c, rest, rfl, hdigit⟩ := hliteral.exists_digit
    rw [(hletter c List.mem_cons_self).2] at hdigit
    exact absurd hdigit (by decide)

/-- **A term that is not written out** has a piece that is no term. -/
theorem exists_bad_piece (hname : isName t.name = true) (h : ¬t.coefficient.WrittenOut) :
    ∃ piece ∈ t.write.splitOn '+', ¬IsTerm piece := by
  obtain ⟨name, x⟩ := t
  cases x with
  | finite negative m =>
    obtain ⟨l, e, htext⟩ := NumberFormat.exists_literal_writeMagnitude_append h
    have := exists_bad_piece_of_power negative l e ⟨name, hname⟩
    rwa [htext, ← NumberFormat.write_finite] at this
  | infinite negative =>
    have hwrite : NumberFormat.general.write (.infinite negative) =
        signText negative ++ ['i', 'n', 'f'] := by cases negative <;> rfl
    rw [Term.write, hwrite]
    exact exists_bad_piece_of_word negative (by simp) (by decide +kernel) ⟨name, hname⟩
  | undefined =>
    have hne : (['n', 'a', 'n'] : Text) ≠ [] := by simp
    exact exists_bad_piece_of_word false hne (by decide +kernel) ⟨name, hname⟩

/-! ## Sums -/

theorem isTerm_trim_iff : IsTerm (Text.trim s) ↔ IsTerm s := by
  have hread (s : Text) : IsTerm s ↔ ∃ t, readTerm (some []) s = .ok t := by
    constructor
    · rintro ⟨f, rfl⟩
      exact ⟨_, readTerm_text _ f⟩
    · rintro ⟨t, ht⟩
      obtain ⟨f, hf, -⟩ := exists_of_readTerm ht
      exact ⟨f, hf⟩
  rw [hread, hread, ← Function.comp_apply (f := readTerm (some [])) (g := Text.trim), readTerm_trim]

/-- Blanks before a sum are blanks before its first term. -/
theorem map_trim_splitOn_space (s : Text) :
    ((' ' :: s).splitOn '+').map Text.trim = (s.splitOn '+').map Text.trim := by
  obtain ⟨first, rest, hs⟩ := List.exists_cons_of_ne_nil (List.splitOn_ne_nil '+' s)
  have hfirst : Text.trim (' ' :: first) = Text.trim first := rfl
  rw [List.splitOn_cons_eq_if_modifyHead, if_neg (by decide), hs, List.modifyHead_cons,
    List.map_cons, List.map_cons, hfirst]

/-- The pieces of a displayed sum are those of its terms. -/
theorem map_trim_splitOn_writeTerms (hne : ts ≠ []) :
    ((writeTerms ts).splitOn '+').map Text.trim =
      ts.flatMap fun t => (t.write.splitOn '+').map Text.trim := by
  induction ts with
  | nil => exact absurd rfl hne
  | cons t ts ih =>
    cases ts with
    | nil => simp [writeTerms]
    | cons next ts =>
      have hspace : Text.Blank [' '] := Text.forall_of_all (by decide)
      have hsplit : writeTerms (t :: next :: ts) =
          (t.write ++ [' ']) ++ '+' :: ' ' :: writeTerms (next :: ts) := by
        simp [writeTerms, List.intercalate_cons_cons]
      rw [hsplit, Text.splitOn_append_cons, List.map_append, map_trim_splitOn_append hspace,
        map_trim_splitOn_space, ih (by simp)]
      rfl

/-- A displayed sum that is read is written out. -/
theorem writtenOut_of_readTerms {us : List (Term Number)}
    (hnames : ∀ t ∈ ts, isName t.name = true) (h : readTerms none (writeTerms ts) = .ok us) :
    ts ≠ [] ∧ ∀ t ∈ ts, t.coefficient.WrittenOut := by
  have hne : ts ≠ [] := by
    rintro rfl
    exact trim_ne_nil_of_readTerms h rfl
  refine ⟨hne, fun t ht => ?_⟩
  by_contra hbad
  obtain ⟨piece, hpiece, hnot⟩ := exists_bad_piece (hnames t ht) hbad
  obtain ⟨forms, hforms, htext, -⟩ := readTerms_eq_ok_iff.1 h
  -- The piece stands in the sum, up to the blanks around it, and there all pieces are terms.
  have hmem : Text.trim piece ∈ ((writeTerms ts).splitOn '+').map Text.trim := by
    rw [map_trim_splitOn_writeTerms hne]
    exact List.mem_flatMap.2 ⟨t, ht, List.mem_map_of_mem hpiece⟩
  rw [← htext, splitOn_sumText hforms, List.map_map] at hmem
  obtain ⟨f, -, hf⟩ := List.mem_map.1 hmem
  refine hnot (isTerm_trim_iff.1 ?_)
  rw [← hf]
  exact isTerm_trim_iff.2 ⟨f, rfl⟩

/-- **What a display is read as.** A displayed sum is read exactly when it has a term and all its
coefficients are written out, which are those that are displayed as literals. Then names and order
are kept, and each coefficient is the nearest to the six digits that are displayed. Anything else is
refused. -/
theorem readTerms_writeTerms (hnames : ∀ t ∈ ts, isName t.name = true) :
    ((∃ us, readTerms none (writeTerms ts) = .ok us) ↔
      ts ≠ [] ∧ ∀ t ∈ ts, t.coefficient.WrittenOut) ∧
    (∀ t ∈ ts, t.coefficient.WrittenOut ↔ ∃ (negative : Bool) (l : Literal),
      NumberFormat.general.write t.coefficient = signText negative ++ l.text) ∧
    (∀ us, readTerms none (writeTerms ts) = .ok us → List.Forall₂ Term.ReadBack ts us) ∧
    (¬(ts ≠ [] ∧ ∀ t ∈ ts, t.coefficient.WrittenOut) →
      ∃ fault, readTerms none (writeTerms ts) = .error fault) := by
  refine ⟨⟨fun ⟨us, h⟩ => writtenOut_of_readTerms hnames h, fun ⟨hne, h⟩ => ?_⟩,
    fun t _ => Number.writtenOut_iff_exists_literal, fun us h => ?_, fun hnot => ?_⟩
  · obtain ⟨us, hread, -⟩ := readTerms_of_writtenOut hne hnames h
    exact ⟨us, hread⟩
  · obtain ⟨hne, hwritten⟩ := writtenOut_of_readTerms hnames h
    obtain ⟨us', hread, hterms, -⟩ := readTerms_of_writtenOut hne hnames hwritten
    obtain rfl : us' = us := Except.ok.inj (hread.symm.trans h)
    exact hterms
  · cases hread : readTerms none (writeTerms ts) with
    | error fault => exact ⟨fault, rfl⟩
    | ok us => exact absurd (writtenOut_of_readTerms hnames hread) hnot

/-- A sum that loses digits and keeps the sign of a zero: `-1.234567 x - 0 y + 999999.4 z`. -/
def roundedSum : List (Term Number) :=
  [⟨['x'], Decimal.toNumber true ⟨1234567, -6⟩⟩, ⟨['y'], .finite true .zero⟩,
    ⟨['z'], Decimal.toNumber false ⟨9999994, -1⟩⟩]

/-- The six digits of the second coefficient round up to a million: `x + 999999.5 y`. -/
def carriedSum : List (Term Number) := [⟨['x'], 1⟩, ⟨['y'], Decimal.toNumber false ⟨9999995, -1⟩⟩]

theorem readTerms_writeTerms_rounded_and_carried :
    (writeTerms roundedSum = "-1.23457*x + -0*y + 999999*z".toList ∧
      ∃ us, readTerms none (writeTerms roundedSum) = .ok us ∧ us ≠ roundedSum ∧
        List.Forall₂ Term.ReadBack roundedSum us) ∧
    writeTerms carriedSum = "1*x + 1e+06*y".toList ∧
      ¬(∀ t ∈ carriedSum, t.coefficient.WrittenOut) ∧
      ∃ fault, readTerms none (writeTerms carriedSum) = .error fault := by
  have hrounded : ∀ t ∈ roundedSum, isName t.name = true := by decide +kernel
  have hcarried : ∀ t ∈ carriedSum, isName t.name = true := by decide +kernel
  obtain ⟨-, -, hread, -⟩ := readTerms_writeTerms hrounded
  obtain ⟨hiff, -, -, hrefused⟩ := readTerms_writeTerms hcarried
  have hok : (readTerms none (writeTerms roundedSum)).toBool = true := by decide +kernel
  have hchanged : readTerms none (writeTerms roundedSum) ≠ .ok roundedSum := by decide +kernel
  have herror : (readTerms none (writeTerms carriedSum)).toBool = false := by decide +kernel
  have hnot : ¬(carriedSum ≠ [] ∧ ∀ t ∈ carriedSum, t.coefficient.WrittenOut) := by
    rw [← hiff]
    rintro ⟨us, hus⟩
    simp [hus, Except.toBool] at herror
  refine ⟨⟨by decide +kernel, ?_⟩, by decide +kernel, fun h => hnot ⟨by decide, h⟩, hrefused hnot⟩
  cases hterms : readTerms none (writeTerms roundedSum) with
  | error fault => simp [hterms, Except.toBool] at hok
  | ok us => exact ⟨us, rfl, fun heq => hchanged (by rw [hterms, heq]), hread us hterms⟩

/-- **Displaying twice.** What is read from a display is displayed as before. -/
theorem writeTerms_of_readTerms {us : List (Term Number)}
    (hnames : ∀ t ∈ ts, isName t.name = true) (h : readTerms none (writeTerms ts) = .ok us) :
    writeTerms us = writeTerms ts := by
  obtain ⟨hne, hwritten⟩ := writtenOut_of_readTerms hnames h
  obtain ⟨us', hread, -, hwrite⟩ := readTerms_of_writtenOut hne hnames hwritten
  obtain rfl : us' = us := Except.ok.inj (hread.symm.trans h)
  exact hwrite

theorem writeTerms_of_readTerms_rounded :
    ∃ us, readTerms none (writeTerms roundedSum) = .ok us ∧
      writeTerms us = "-1.23457*x + -0*y + 999999*z".toList := by
  have hok : (readTerms none (writeTerms roundedSum)).toBool = true := by decide +kernel
  have htext : writeTerms roundedSum = "-1.23457*x + -0*y + 999999*z".toList := by decide +kernel
  cases hterms : readTerms none (writeTerms roundedSum) with
  | error fault => simp [hterms, Except.toBool] at hok
  | ok us => exact ⟨us, rfl, (writeTerms_of_readTerms (by decide +kernel) hterms).trans htext⟩

end LinearProgram
