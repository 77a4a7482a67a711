import Mathlib.Logic.Relation
import LinearProgram.Proofs.Notation.Kind
import LinearProgram.Proofs.Notation.Order
import LinearProgram.Proofs.Notation.Tight

/-!
# Changing the space in a document

A document may be spaced in other ways without a change to what it is read as, or to the kind of
fault that is found in it. A step (`Respaced`) puts other blanks in one place: any gap for a gap,
except between the two words of the keyword of constraints, and any blanks for any blanks where
dividers or operators make them unnecessary (`Loose`), or at the ends of the text.

**Pieces.** A step changes one of the pieces between semicolons, and changes it by a step
(`Respaced.forall₂_splitOn`).

**Statements.** A step keeps the tight spacing of a text, on which its readers depend, and its kind,
which depends on the space between the two words and so cannot be told from the tight spacing. What
has both in common is read alike (`Statement.Alike`).

**Documents.** Statements that are pairwise alike are read alike one after the other
(`Draft.outcome_extendAll`), and the steps add up (`Document.read_respaced`).
-/

namespace LinearProgram

open Statement

/-! ## Steps -/

/-- The place between two texts where blanks may come and go: next to a divider, and between an
operator character and a character of another class. At the ends of a text they always may. -/
def Loose (x y : Text) : Prop :=
  ∀ c d, x.getLast? = some c → y.head? = some d →
    (isLoose c = true ∨ isLoose d = true) ∧ ¬(isOperatorChar c = true ∧ isOperatorChar d = true)

/-- A text in which the blanks in one place are changed. -/
inductive Respaced : Text → Text → Prop
  /-- One whole run of blanks takes the place of another, but not within `subject to`. -/
  | gap {x y : Text} (g g' : Gap) (hx : ∀ c, x.getLast? = some c → isBlank c = false)
      (hy : Text.Stops isBlank y) (hwords : ¬(subjectKeyword <:+ x ∧ toKeyword <+: y)) :
      Respaced (x ++ (g.1 ++ y)) (x ++ (g'.1 ++ y))
  /-- Blanks come, go or change where they are not needed. -/
  | loose {x y : Text} (g g' : Blanks) (h : Loose x y) :
      Respaced (x ++ (g.1 ++ y)) (x ++ (g'.1 ++ y))

variable {s s' x y : Text}

theorem Loose.of_suffix_of_prefix {x' y' : Text} (h : Loose x y) (hx : x' <:+ x) (hy : y' <+: y) :
    Loose x' y' := by
  obtain ⟨a, rfl⟩ := hx
  obtain ⟨b, rfl⟩ := hy
  refine fun c d hc hd => h c d ?_ ?_
  · rw [List.getLast?_append, hc, Option.some_or]
  · rw [List.head?_append, hd, Option.some_or]

theorem loose_iff {c d : Char} (hc : x.getLast? = some c) (hd : y.head? = some d) : Loose x y ↔
    (isLoose c = true ∨ isLoose d = true) ∧ ¬(isOperatorChar c = true ∧ isOperatorChar d = true) :=
  ⟨fun h => h c d hc hd, fun h c' d' hc' hd' => by
    obtain rfl : c = c' := Option.some.inj (hc.symm.trans hc')
    obtain rfl : d = d' := Option.some.inj (hd.symm.trans hd')
    exact h⟩

/-! ## Pieces -/

/-- Where a separator cuts a text with blanks in one place: the blanks stand in one of the pieces,
whatever they are. -/
theorem Text.exists_splitOn_gap (c : Char) (x y : Text) :
    ∃ before after x' y', x' <:+ x ∧ y' <+: y ∧ ∀ g, c ∉ g →
      (x ++ (g ++ y)).splitOn c = before ++ (x' ++ (g ++ y')) :: after := by
  obtain ⟨before, x', hx, hx', hbefore⟩ : ∃ before x', x' <:+ x ∧ c ∉ x' ∧
      ∀ rest, (x ++ rest).splitOn c = before ++ (x' ++ rest).splitOn c := by
    by_cases hmem : c ∈ x
    · obtain ⟨a, b, hab, ha⟩ := List.eq_append_cons_of_mem (List.mem_reverse.2 hmem)
      have hx : x = b.reverse ++ c :: a.reverse := by
        rw [← List.reverse_reverse x, hab]
        simp
      refine ⟨b.reverse.splitOn c, a.reverse, ?_, by simpa using ha, fun rest => ?_⟩
      · exact ⟨b.reverse ++ [c], by rw [hx]; simp⟩
      · rw [hx, List.append_assoc, List.cons_append, splitOn_append_cons]
    · exact ⟨[], x, List.suffix_rfl, hmem, fun rest => rfl⟩
  obtain ⟨after, y', hy, hy', hafter⟩ : ∃ after y', y' <+: y ∧ c ∉ y' ∧
      ∀ first, c ∉ first → (first ++ y).splitOn c = (first ++ y') :: after := by
    by_cases hmem : c ∈ y
    · obtain ⟨a, b, rfl, ha⟩ := List.eq_append_cons_of_mem hmem
      refine ⟨b.splitOn c, a, List.prefix_append a _, ha, fun first hfirst => ?_⟩
      rw [← List.append_assoc, splitOn_append_cons,
        List.splitOn_eq_singleton (by simp [hfirst, ha])]
      rfl
    · exact ⟨[], y, List.prefix_rfl, hmem, fun first hfirst =>
        List.splitOn_eq_singleton (by simp [hfirst, hmem])⟩
  refine ⟨before, after, x', y', hx, hy, fun g hg => ?_⟩
  rw [hbefore, ← List.append_assoc, hafter _ (by simp [hx', hg]), List.append_assoc]

/-- **A step changes at most one piece**, and changes it by a step. -/
theorem Respaced.forall₂_splitOn (h : Respaced s s') :
    List.Forall₂ (fun piece piece' => piece = piece' ∨ Respaced piece piece') (s.splitOn ';')
      (s'.splitOn ';') := by
  have hblanks (g : Blanks) : ';' ∉ g.1 := not_mem_blanks_of_mem_punctuation (by decide) g
  have hrefl (pieces : List Text) :
      List.Forall₂ (fun piece piece' => piece = piece' ∨ Respaced piece piece') pieces pieces :=
    List.forall₂_same.2 fun piece _ => Or.inl rfl
  cases h with
  | @gap x y g g' hx hy hwords =>
    obtain ⟨before, after, x', y', hx', hy', hsplit⟩ := Text.exists_splitOn_gap ';' x y
    rw [hsplit _ (hblanks ⟨g.1, g.2.2⟩), hsplit _ (hblanks ⟨g'.1, g'.2.2⟩)]
    refine List.rel_append (hrefl before) (.cons (Or.inr (.gap g g' (fun c hc => ?_) ?_ ?_))
      (hrefl after))
    · obtain ⟨a, rfl⟩ := hx'
      exact hx c (by rw [List.getLast?_append, hc, Option.some_or])
    · obtain ⟨b, rfl⟩ := hy'
      exact fun d hd => hy d (by rw [List.head?_append, hd, Option.some_or])
    · exact fun hboth => hwords ⟨hboth.1.trans hx', hboth.2.trans hy'⟩
  | @loose x y g g' hloose =>
    obtain ⟨before, after, x', y', hx', hy', hsplit⟩ := Text.exists_splitOn_gap ';' x y
    rw [hsplit _ (hblanks g), hsplit _ (hblanks g')]
    exact List.rel_append (hrefl before)
      (.cons (Or.inr (.loose g g' (hloose.of_suffix_of_prefix hx' hy'))) (hrefl after))

/-! ## Tight spacing -/

namespace Text

/-- What is squeezed to the same begins with the same character behind its blanks. -/
theorem head?_trimStart_of_squeeze_eq (h : squeeze s = squeeze s') :
    (trimStart s).head? = (trimStart s').head? := by
  rw [← head?_squeeze (stops_trimStart s), ← head?_squeeze (stops_trimStart s')]
  show (tight s).head? = (tight s').head?
  rw [← trimStart_squeeze, h, trimStart_squeeze]

/-- What follows a text may be replaced by what is squeezed to the same. The operator character at
the end of a text sees one thing more: whether another one stands behind a gap. -/
theorem squeeze_append_congr (h : squeeze s = squeeze s')
    (hop : ∀ c, x.getLast? = some c → isOperatorChar c = true →
      operatorBehindGap s = operatorBehindGap s') : squeeze (x ++ s) = squeeze (x ++ s') := by
  induction x with
  | nil => exact h
  | cons c x ih =>
    have hrest : squeeze (x ++ s) = squeeze (x ++ s') := by
      refine ih fun d hd => hop d ?_
      rw [List.getLast?_cons, hd]
      rfl
    rw [List.cons_append, List.cons_append]
    rcases isBlank_or_isSolid_or_isLoose c with hblank | hsolid | hloose
    · rw [squeeze_cons_of_isBlank hblank, squeeze_cons_of_isBlank hblank, ← any_head?_squeeze,
        hrest, any_head?_squeeze]
    · rw [squeeze_cons_of_isSolid hsolid, squeeze_cons_of_isSolid hsolid, hrest]
    · have hsame : (isOperatorChar c && operatorBehindGap (x ++ s)) =
          (isOperatorChar c && operatorBehindGap (x ++ s')) := by
        cases x with
        | nil =>
          cases hc : isOperatorChar c with
          | false => rfl
          | true => simpa using hop c rfl hc
        | cons d x =>
          rw [operatorBehindGap, operatorBehindGap, head?_trimStart_of_squeeze_eq hrest]
          rfl
      rw [squeeze_cons_of_isLoose hloose, squeeze_cons_of_isLoose hloose, hsame, hrest]

theorem operatorBehindGap_of_blank_append {g : Text} (hg : Blank g) (s : Text) :
    operatorBehindGap (g ++ s) =
      ((g ++ s).head?.any isBlank && (trimStart s).head?.any isOperatorChar) := by
  rw [operatorBehindGap, hg.trimStart_append]

/-- Blanks before a loose character are left out. -/
theorem squeeze_append_loose {g : Text} {d : Char} (hg : Blank g) (hd : isLoose d = true)
    (y : Text) : squeeze (g ++ d :: y) = squeeze (d :: y) := by
  by_cases hne : g = []
  · rw [hne, List.nil_append]
  · rw [squeeze_gap_append hg hne, if_neg (by simp [isSolid_of_isLoose hd])]

/-- Blanks behind a loose character are left out, unless the character is an operator character and
there is another one behind them. -/
theorem squeeze_loose_append {g g' : Text} {c d : Char} (hg : Blank g) (hg' : Blank g')
    (hc : isLoose c = true) (hd : isOperatorChar c = true → isLoose d = false) (y : Text) :
    squeeze (c :: (g ++ d :: y)) = squeeze (c :: (g' ++ d :: y)) := by
  have hsame : (isOperatorChar c && operatorBehindGap (g ++ d :: y)) =
      (isOperatorChar c && operatorBehindGap (g' ++ d :: y)) := by
    cases hop : isOperatorChar c with
    | false => rfl
    | true =>
      rw [operatorBehindGap_of_blank_append hg, operatorBehindGap_of_blank_append hg']
      cases hblank : isBlank d with
      | true =>
        -- The gap goes on behind the blanks that are changed.
        have hhead {b : Text} (hb : Blank b) : (b ++ d :: y).head?.any isBlank = true := by
          cases b with
          | nil => simpa using hblank
          | cons e b => simpa using hb e List.mem_cons_self
        rw [hhead hg, hhead hg']
      | false =>
        have hnot : isOperatorChar d = false := by
          by_contra h
          rw [isLoose_of_isOperatorChar (by simpa using h)] at hd
          exact absurd (hd hop) (by decide)
        rw [trimStart_of_stops (stops_cons hblank y)]
        simp [hnot]
  rw [squeeze_cons_of_isLoose hc, squeeze_cons_of_isLoose hc, hsame, trimStart_squeeze,
    trimStart_squeeze, tight_append_of_blank hg, tight_append_of_blank hg']

end Text

/-- **A step keeps the tight spacing.** -/
theorem Respaced.tight_eq (h : Respaced s s') : Text.tight s = Text.tight s' := by
  cases h with
  | @gap x y g g' hx hy hwords =>
    have hop (g : Gap) : Text.operatorBehindGap (g.1 ++ y) =
        (Text.trimStart y).head?.any isOperatorChar := by
      obtain ⟨c, rest, hg⟩ := List.exists_cons_of_ne_nil g.2.1
      have hc : isBlank c = true := g.2.2 c (by rw [hg]; exact List.mem_cons_self)
      rw [Text.operatorBehindGap_of_blank_append g.2.2, hg]
      simp [hc]
    rw [← Text.trimStart_squeeze, ← Text.trimStart_squeeze, Text.squeeze_append_congr]
    · rw [Text.squeeze_gap_append g.2.2 g.2.1, Text.squeeze_gap_append g'.2.2 g'.2.1]
    · exact fun c _ _ => by rw [hop, hop]
  | @loose x y g g' hloose =>
    rcases List.eq_nil_or_concat' x with rfl | ⟨x, c, rfl⟩
    · rw [List.nil_append, List.nil_append, Text.tight_append_of_blank g.2,
        Text.tight_append_of_blank g'.2]
    · cases y with
      | nil =>
        rw [List.append_nil, List.append_nil, Text.tight_append_of_blank_right g.2,
          Text.tight_append_of_blank_right g'.2]
      | cons d y =>
        obtain ⟨hside, hboth⟩ := hloose c d (by simp) rfl
        rw [← Text.trimStart_squeeze, ← Text.trimStart_squeeze]
        congr 1
        cases hd : isLoose d with
        | true =>
          refine Text.squeeze_append_congr ?_ fun e he hop => ?_
          · rw [Text.squeeze_append_loose g.2 hd, Text.squeeze_append_loose g'.2 hd]
          · -- No operator stands behind the blanks if one stands before them.
            obtain rfl : c = e := by simpa using he
            have hnot : isOperatorChar d = false := by simpa [hop] using hboth
            have hstops := Text.stops_cons (isBlank_of_isLoose hd) y
            rw [Text.operatorBehindGap_of_blank_append g.2,
              Text.operatorBehindGap_of_blank_append g'.2, Text.trimStart_of_stops hstops]
            simp [hnot]
        | false =>
          have hc : isLoose c = true := by simpa [hd] using hside
          have hblank := isBlank_of_isLoose hc
          rw [List.append_assoc, List.append_assoc]
          refine Text.squeeze_append_congr ?_ fun e _ _ => ?_
          · exact Text.squeeze_loose_append g.2 g'.2 hc (fun _ => hd) y
          · simp [Text.operatorBehindGap, hblank]

/-! ## Kinds -/

namespace Statement

/-- No mark lies across a place where blanks may come and go. -/
theorem infix_loose_iff {w : Text} (hw : Mark w) (hwLoose : ∀ c ∈ w, isLoose c = false)
    (h : Loose x y) (g : Blanks) : w <:+: x ++ (g.1 ++ y) ↔ w <:+: x ∨ w <:+: y := by
  have hfiller : ∀ c ∈ g.1, isFiller c = true := fun c hc => isFiller_of_isBlank (g.2 c hc)
  have hnil : ¬w <:+: [] := fun h => hw.ne_nil (List.infix_nil.1 h)
  rcases List.eq_nil_or_concat' x with rfl | ⟨x, c, rfl⟩
  · rw [List.nil_append, Text.infix_run_append_iff hfiller hw.ne_nil hw.first, or_iff_right hnil]
  · cases y with
    | nil =>
      rw [List.append_nil, Text.infix_append_iff_of_last hfiller hw.ne_nil hw.last,
        or_iff_left hnil]
    | cons d y =>
      have hnot {e : Char} (he : isLoose e = true) : e ∉ w :=
        Text.not_mem_of_forall_false he hwLoose
      rcases (h c d (by simp) rfl).1 with hc | hd
      · rw [List.append_assoc, List.singleton_append, Text.infix_append_cons_iff (hnot hc),
          Text.infix_run_append_iff hfiller hw.ne_nil hw.first,
          Text.infix_append_cons_iff (hnot hc), or_iff_left hnil]
      · rw [← List.append_assoc, Text.infix_append_cons_iff (hnot hd),
          Text.infix_append_iff_of_last hfiller hw.ne_nil hw.last, ← List.nil_append (d :: y),
          Text.infix_append_cons_iff (hnot hd), or_iff_right hnil]

theorem isLoose_of_mem_word {w : Text} (hw : Word w) : ∀ c ∈ w, isLoose c = false := fun c hc => by
  by_contra hloose
  have := isFiller_of_mem_punctuation (mem_punctuation_of_isLoose (by simpa using hloose))
  rw [hw.letters c hc] at this
  exact absurd this (by decide)

/-- A step keeps the words that a text mentions. -/
theorem infix_iff_of_respaced {w : Text} (hw : Word w) (h : Respaced s s') :
    w <:+: s ↔ w <:+: s' := by
  cases h with
  | @gap x y g g' hx hy hwords => rw [infix_append_gap_iff hw, infix_append_gap_iff hw]
  | @loose x y g g' hloose =>
    have hnot := isLoose_of_mem_word hw
    rw [infix_loose_iff hw.mark hnot hloose, infix_loose_iff hw.mark hnot hloose]

/-- A step keeps the mark of constraints. -/
theorem subjectToMark_infix_iff_of_respaced (h : Respaced s s') :
    subjectToMark <:+: s ↔ subjectToMark <:+: s' := by
  cases h with
  | @gap x y g g' hx hy hwords =>
    have hacross (g : Gap) : ¬(subjectKeyword <:+ x ∧ g.1 = [' '] ∧ toKeyword <+: y) := fun h =>
      hwords ⟨h.1, h.2.2⟩
    rw [subjectToMark_infix_gap_iff g hy, subjectToMark_infix_gap_iff g' hy,
      or_iff_right (hacross g), or_iff_right (hacross g')]
  | @loose x y g g' hloose =>
    have hmark := ConstraintForm.mark_subjectToMark
    have hnot : ∀ c ∈ subjectToMark, isLoose c = false := Text.forall_of_any (by decide +kernel)
    rw [infix_loose_iff hmark hnot hloose, infix_loose_iff hmark hnot hloose]

theorem kind?_eq_of_respaced (h : Respaced s s') : kind? s = kind? s' := by
  have hmem : '#' ∈ s ↔ '#' ∈ s' := by
    have hblanks (g : Blanks) : '#' ∉ g.1 := not_mem_blanks_of_mem_punctuation (by decide) g
    cases h with
    | gap g g' _ _ _ => simp [hblanks ⟨g.1, g.2.2⟩, hblanks ⟨g'.1, g'.2.2⟩]
    | loose g g' _ => simp [hblanks g, hblanks g']
  by_cases hhash : '#' ∈ s
  · rw [kind?_eq_comment_iff.2 hhash, kind?_eq_comment_iff.2 (hmem.1 hhash)]
  · rw [kind?_of_hash_not_mem hhash, kind?_of_hash_not_mem fun h => hhash (hmem.2 h)]
    simp only [infix_iff_of_respaced word_varKeyword h,
      infix_iff_of_respaced word_minimizeKeyword h, infix_iff_of_respaced word_maximizeKeyword h,
      subjectToMark_infix_iff_of_respaced h]

/-! ## Statements -/

/-- The two texts have in common what the readers of statements depend on. -/
structure Alike (s s' : Text) : Prop where
  tight : Text.tight s = Text.tight s'
  kind : kind? s = kind? s'

namespace Alike

theorem of_respaced (h : Respaced s s') : Alike s s' := ⟨h.tight_eq, kind?_eq_of_respaced h⟩

theorem trans {s'' : Text} (h : Alike s s') (h' : Alike s' s'') : Alike s s'' :=
  ⟨h.tight.trans h'.tight, h.kind.trans h'.kind⟩

theorem symm (h : Alike s s') : Alike s' s := ⟨h.tight.symm, h.kind.symm⟩

/-- Trimming changes the space at the two ends. -/
theorem trim_self (s : Text) : Alike (Text.trim s) s := by
  obtain ⟨u, v, hu, hv, hs⟩ := Text.exists_eq_append_trim_append s
  have hfirst : Alike (Text.trim s) (u ++ Text.trim s) :=
    of_respaced (Respaced.loose (x := []) noBlanks ⟨u, hu⟩ (by simp [Loose]))
  have hlast : Alike (u ++ Text.trim s) (u ++ Text.trim s ++ v) := by
    simpa [noBlanks] using of_respaced
      (Respaced.loose (x := u ++ Text.trim s) (y := []) noBlanks ⟨v, hv⟩ (by simp [Loose]))
  rw [← hs] at hlast
  exact hfirst.trans hlast

theorem trim (h : Alike s s') : Alike (Text.trim s) (Text.trim s') :=
  (trim_self s).trans (h.trans (trim_self s').symm)

theorem outcome_readDeclaration (h : Alike s s') :
    outcome (readDeclaration s) = outcome (readDeclaration s') := by
  rw [← outcome_readDeclaration_tight, h.tight, outcome_readDeclaration_tight]

theorem outcome_readObjective (h : Alike s s') :
    outcome (readObjective s) = outcome (readObjective s') := by
  rw [← outcome_readObjective_tight, h.tight, outcome_readObjective_tight]

theorem outcome_readConstraint (h : Alike s s') (strict : Bool) :
    outcome (readConstraint strict s) = outcome (readConstraint strict s') := by
  rw [← outcome_readConstraint_tight, h.tight, outcome_readConstraint_tight]

end Alike

end Statement

/-! ## Documents -/

/-- Statements that are alike extend a draft in the same way. -/
theorem Draft.outcome_extend (policy : Policy) (draft : Draft) (h : Statement.Alike s s') :
    outcome (draft.extend policy s) = outcome (draft.extend policy s') := by
  simp only [extend, classify, h.kind]
  cases kind? s' with
  | none => rfl
  | some kind =>
    cases kind with
    | comment => rfl
    | declaration =>
      rcases outcome_eq_iff.1 h.outcome_readDeclaration with
        ⟨declared, hs, hs'⟩ | ⟨fault, fault', hs, hs', hkind⟩
      · simp only [hs, hs']
      · simpa only [hs, hs', outcome_error, Except.error.injEq] using hkind
    | constraint =>
      rcases outcome_eq_iff.1 (h.outcome_readConstraint policy.strictOperators) with
        ⟨constraint, hs, hs'⟩ | ⟨fault, fault', hs, hs', hkind⟩
      · simp only [hs, hs']
      · simpa only [hs, hs', outcome_error, Except.error.injEq] using hkind
    | objective =>
      rcases outcome_eq_iff.1 h.outcome_readObjective with
        ⟨objective, hs, hs'⟩ | ⟨fault, fault', hs, hs', hkind⟩
      · simp only [hs, hs']
        split <;> rfl
      · simpa only [hs, hs', outcome_error, Except.error.injEq] using hkind

/-- **Runs of statements that are pairwise alike.** -/
theorem Draft.outcome_extendAll (policy : Policy) {statements statements' : List Text}
    (h : List.Forall₂ Statement.Alike statements statements') (draft : Draft) :
    outcome (draft.extendAll policy statements) = outcome (draft.extendAll policy statements') := by
  induction h generalizing draft with
  | nil => rfl
  | cons hs _ ih =>
    rcases outcome_eq_iff.1 (draft.outcome_extend policy hs) with
      ⟨next, hnext, hnext'⟩ | ⟨fault, fault', hfault, hfault', hkind⟩
    · simp only [extendAll, hnext, hnext']
      exact ih next
    · simpa only [extendAll, hfault, hfault', outcome_error, Except.error.injEq] using hkind

namespace Document

variable {text other : Text}

/-- Pieces that are pairwise alike leave statements that are. -/
theorem forall₂_statements
    (h : List.Forall₂ Statement.Alike (text.splitOn ';') (other.splitOn ';')) :
    List.Forall₂ Statement.Alike (statements text) (statements other) := by
  rw [statements, statements, List.filter_map, List.filter_map, List.forall₂_map_left_iff,
    List.forall₂_map_right_iff]
  refine (List.rel_filter (fun piece piece' hpiece => ?_) h).imp fun _ _ => Alike.trim
  simp only [Function.comp_apply, ← Text.isEmpty_tight, hpiece.tight]

/-- **Documents with pieces that are pairwise alike** are read alike. -/
theorem outcome_read_of_alike (policy : Policy)
    (h : List.Forall₂ Statement.Alike (text.splitOn ';') (other.splitOn ';')) :
    outcome (read policy text) = outcome (read policy other) := by
  rcases outcome_eq_iff.1 (Draft.outcome_extendAll policy (forall₂_statements h) {}) with
    ⟨draft, hrun, hrun'⟩ | ⟨fault, fault', hrun, hrun', hkind⟩
  · simp only [read, hrun, hrun']
  · simpa only [read, hrun, hrun', outcome_error, Except.error.injEq] using hkind

/-- **One step.** It keeps the pieces of a document apart and alike. -/
theorem outcome_read (policy : Policy) (h : Respaced text other) :
    outcome (read policy text) = outcome (read policy other) := by
  refine outcome_read_of_alike policy (h.forall₂_splitOn.imp fun piece piece' hpiece => ?_)
  rcases hpiece with rfl | hstep
  · exact ⟨rfl, rfl⟩
  · exact .of_respaced hstep

/-- **Space does not matter.** However the space in a document is changed step by step, the document
is read as the same model, or refused with a fault of the same kind. -/
theorem read_respaced (policy : Policy) (h : Relation.ReflTransGen Respaced text other) :
    (∀ m, read policy other = .ok m ↔ read policy text = .ok m) ∧
    ∀ fault, read policy text = .error fault →
      ∃ fault', read policy other = .error fault' ∧ fault'.cause.kind = fault.cause.kind := by
  have houtcome : outcome (read policy text) = outcome (read policy other) := by
    induction h with
    | refl => rfl
    | tail _ hstep ih => exact ih.trans (outcome_read policy hstep)
  rcases outcome_eq_iff.1 houtcome with ⟨m, hm, hm'⟩ | ⟨fault, fault', hfault, hfault', hkind⟩
  · simp [hm, hm']
  · simp [hfault, hfault', hkind]

/-- A document on one line. -/
def onOneLine : Text := "maximize f: 2*x; subject to c: x<=1".toList

/-- The same document on two lines, with space around the operator. -/
def onTwoLines : Text := "maximize\tf: 2*x;\nsubject to c: x <=1".toList

theorem read_respaced_onTwoLines :
    Relation.ReflTransGen Respaced onOneLine onTwoLines ∧
      ∃ m, read ⟨.refused, true⟩ onOneLine = .ok m ∧ read ⟨.refused, true⟩ onTwoLines = .ok m := by
  have hspace : Text.Blank [' '] := Text.forall_of_all (by decide)
  have htab : Text.Blank ['\t'] := Text.forall_of_all (by decide)
  have hbreak : Text.Blank ['\n'] := Text.forall_of_all (by decide)
  have hgap : Respaced onOneLine "maximize\tf: 2*x; subject to c: x<=1".toList :=
    @Respaced.gap "maximize".toList "f: 2*x; subject to c: x<=1".toList ⟨[' '], by simp, hspace⟩
      ⟨['\t'], by simp, htab⟩ (by simp; decide) (by simp [Text.Stops]; decide) (by decide +kernel)
  have hdivider : Respaced "maximize\tf: 2*x; subject to c: x<=1".toList
      "maximize\tf: 2*x;\nsubject to c: x<=1".toList :=
    @Respaced.loose "maximize\tf: 2*x;".toList "subject to c: x<=1".toList ⟨[' '], hspace⟩
      ⟨['\n'], hbreak⟩
      ((@loose_iff _ _ ';' 's' (by decide +kernel) (by decide +kernel)).2 (by decide))
  have hoperator : Respaced "maximize\tf: 2*x;\nsubject to c: x<=1".toList onTwoLines :=
    @Respaced.loose "maximize\tf: 2*x;\nsubject to c: x".toList "<=1".toList noBlanks
      ⟨[' '], hspace⟩
      ((@loose_iff _ _ 'x' '<' (by decide +kernel) (by decide +kernel)).2 (by decide))
  have hsteps : Relation.ReflTransGen Respaced onOneLine onTwoLines :=
    ((Relation.ReflTransGen.single hgap).tail hdivider).tail hoperator
  have hread : ∃ m, read ⟨.refused, true⟩ onOneLine = .ok m := of_decide_eq_true (by decide +kernel)
  obtain ⟨m, hm⟩ := hread
  exact ⟨hsteps, m, hm, ((read_respaced _ hsteps).1 m).2 hm⟩

end Document

end LinearProgram
