import LinearProgram.Proofs.Notation.Respacing
import LinearProgram.Text.LineBreak

/-!
# How line breaks are written

Line breaks are blanks, however they are written, so a document is read alike when all of them are
written as line feeds (`Document.outcome_read_unifyBreaks`).

Rewriting a line break is no step of `Respaced` where it stands between the words of `subject to`.
Both spellings keep the words from being the mark of a constraint there, so the kind of a statement
is kept all the same. It depends on words without line breaks, and these are found in the same
places (`Text.mentions_unifyBreaks`).
-/

namespace LinearProgram

variable {c : Char} {s w x y : Text}

/-! ## Characters -/

theorem unifyBreaks_cons_of_ne (h : c ≠ '\r') (s : Text) :
    unifyBreaks (c :: s) = c :: unifyBreaks s := by
  rw [unifyBreaks, if_neg h]
  rintro s' rfl
  exact absurd rfl h

/-- A carriage return becomes a line feed, unless it is the first half of a line break. -/
theorem unifyBreaks_return (h : s.head? ≠ some '\n') :
    unifyBreaks ('\r' :: s) = '\n' :: unifyBreaks s := by
  rw [unifyBreaks, if_pos rfl]
  rintro s' - rfl
  exact h rfl

/-- A text is taken apart at its line breaks. -/
theorem break_induction {P : Text → Prop} (nil : P []) (both : ∀ s, P s → P ('\r' :: '\n' :: s))
    (ret : ∀ s, s.head? ≠ some '\n' → P s → P ('\r' :: s))
    (other : ∀ c s, c ≠ '\r' → P s → P (c :: s)) (s : Text) : P s := by
  fun_induction unifyBreaks s with
  | case1 => exact nil
  | case2 s ih => exact both s ih
  | case3 c s hnot ih =>
    by_cases hc : c = '\r'
    · subst hc
      refine ret s (fun hhead => ?_) ih
      cases s with
      | nil => simp at hhead
      | cons d s =>
        obtain rfl : d = '\n' := by simpa using hhead
        exact hnot s rfl rfl
    · exact other c s hc ih

/-- Only line breaks are rewritten. -/
theorem mem_unifyBreaks_iff (hreturn : c ≠ '\r') (hfeed : c ≠ '\n') :
    c ∈ unifyBreaks s ↔ c ∈ s := by
  induction s using break_induction with
  | nil => rfl
  | both s ih => simp [unifyBreaks, hreturn, hfeed, ih]
  | ret s hhead ih => simp [unifyBreaks_return hhead, hreturn, hfeed, ih]
  | other d s hd ih => simp [unifyBreaks_cons_of_ne hd, ih]

/-- Every other character keeps what stands before it from what stands behind it. -/
theorem unifyBreaks_append_cons (hreturn : c ≠ '\r') (hfeed : c ≠ '\n') (x y : Text) :
    unifyBreaks (x ++ c :: y) = unifyBreaks x ++ c :: unifyBreaks y := by
  induction x using break_induction with
  | nil => exact unifyBreaks_cons_of_ne hreturn y
  | both x ih => simp [unifyBreaks, ih]
  | ret x hhead ih =>
    have hhead' : (x ++ c :: y).head? ≠ some '\n' := by
      cases x with
      | nil => simpa using hfeed
      | cons d x => simpa using hhead
    rw [List.cons_append, unifyBreaks_return hhead', unifyBreaks_return hhead, ih, List.cons_append]
  | other d x hd ih =>
    rw [List.cons_append, unifyBreaks_cons_of_ne hd, unifyBreaks_cons_of_ne hd, ih,
      List.cons_append]

theorem splitOn_unifyBreaks (hreturn : c ≠ '\r') (hfeed : c ≠ '\n') (s : Text) :
    (unifyBreaks s).splitOn c = (s.splitOn c).map unifyBreaks := by
  induction s using Text.separator_induction (c := c) with
  | last s hmem =>
    have hmem' : c ∉ unifyBreaks s := fun h => hmem ((mem_unifyBreaks_iff hreturn hfeed).1 h)
    rw [List.splitOn_eq_singleton hmem, List.splitOn_eq_singleton hmem', List.map_singleton]
  | cut first rest hfirst ih =>
    have hfirst' : c ∉ unifyBreaks first := fun h =>
      hfirst ((mem_unifyBreaks_iff hreturn hfeed).1 h)
    rw [unifyBreaks_append_cons hreturn hfeed, Text.splitOn_append_cons, Text.splitOn_append_cons,
      ih, List.splitOn_eq_singleton hfirst, List.splitOn_eq_singleton hfirst', List.map_append,
      List.map_singleton]

namespace Text

/-! ## Words -/

theorem isPrefixOf_cons_of_notMem (h : c ∉ w) (s : Text) : w.isPrefixOf (c :: s) = w.isEmpty := by
  cases w with
  | nil => rfl
  | cons d w =>
    have hd : (d == c) = false := by
      rw [beq_eq_false_iff_ne]
      rintro rfl
      exact h List.mem_cons_self
    rw [List.isPrefixOf, hd, Bool.false_and, List.isEmpty_cons]

theorem isPrefixOf_unifyBreaks (hreturn : '\r' ∉ w) (hfeed : '\n' ∉ w) (s : Text) :
    w.isPrefixOf (unifyBreaks s) = w.isPrefixOf s := by
  induction w generalizing s with
  | nil => rfl
  | cons d w ih =>
    have ih := ih (fun h => hreturn (List.mem_cons_of_mem d h))
      fun h => hfeed (List.mem_cons_of_mem d h)
    cases s using break_induction with
    | nil => rfl
    | both s _ =>
      rw [unifyBreaks, isPrefixOf_cons_of_notMem hfeed, isPrefixOf_cons_of_notMem hreturn]
    | ret s hhead _ =>
      rw [unifyBreaks_return hhead, isPrefixOf_cons_of_notMem hfeed,
        isPrefixOf_cons_of_notMem hreturn]
    | other c s hc _ =>
      rw [unifyBreaks_cons_of_ne hc, List.isPrefixOf, List.isPrefixOf, ih]

/-- A word without line breaks is found wherever it was. -/
theorem mentions_unifyBreaks (hreturn : '\r' ∉ w) (hfeed : '\n' ∉ w) (s : Text) :
    mentions w (unifyBreaks s) = mentions w s := by
  induction s using break_induction with
  | nil => rfl
  | both s ih =>
    -- The second half of the line break is not there any more. No word began at it.
    rw [unifyBreaks, mentions, mentions, mentions, isPrefixOf_cons_of_notMem hfeed,
      isPrefixOf_cons_of_notMem hreturn, isPrefixOf_cons_of_notMem hfeed, ih, ← Bool.or_assoc,
      Bool.or_self]
  | ret s hhead ih =>
    rw [unifyBreaks_return hhead, mentions, mentions, isPrefixOf_cons_of_notMem hfeed,
      isPrefixOf_cons_of_notMem hreturn, ih]
  | other c s hc ih =>
    have := isPrefixOf_unifyBreaks hreturn hfeed (c :: s)
    rw [unifyBreaks_cons_of_ne hc] at this ⊢
    rw [mentions, mentions, this, ih]

/-! ## Space -/

theorem operatorBehindGap_unifyBreaks (h : squeeze (unifyBreaks s) = squeeze s) :
    operatorBehindGap (unifyBreaks s) = operatorBehindGap s := by
  have hblank : (unifyBreaks s).head?.any isBlank = s.head?.any isBlank := by
    cases s using break_induction with
    | nil => rfl
    | both s _ => simp [unifyBreaks]; decide
    | ret s hhead _ => simp [unifyBreaks_return hhead]; decide
    | other c s hc _ => simp [unifyBreaks_cons_of_ne hc]
  rw [operatorBehindGap, operatorBehindGap, hblank, head?_trimStart_of_squeeze_eq h]

theorem squeeze_unifyBreaks (s : Text) : squeeze (unifyBreaks s) = squeeze s := by
  have hreturn : Blank ['\r'] := forall_of_all (by decide)
  have hfeed : Blank ['\n'] := forall_of_all (by decide)
  have hboth : Blank ['\r', '\n'] := forall_of_all (by decide)
  have hgap {g s : Text} (hg : Blank g) (hne : g ≠ []) (ih : squeeze (unifyBreaks s) = squeeze s) :
      squeeze ('\n' :: unifyBreaks s) = squeeze (g ++ s) := by
    rw [squeeze_gap_append hg hne, ← List.singleton_append, squeeze_gap_append hfeed (by simp),
      ← any_head?_squeeze, ih, any_head?_squeeze]
  induction s using break_induction with
  | nil => rfl
  | both s ih =>
    rw [unifyBreaks]
    exact hgap hboth (by simp) ih
  | ret s hhead ih =>
    rw [unifyBreaks_return hhead]
    exact hgap hreturn (by simp) ih
  | other c s hc ih =>
    rw [unifyBreaks_cons_of_ne hc]
    exact squeeze_append_congr (x := [c]) ih fun _ _ _ => operatorBehindGap_unifyBreaks ih

end Text

/-! ## Statements and documents -/

namespace Statement

theorem kind?_unifyBreaks (s : Text) : kind? (unifyBreaks s) = kind? s := by
  have hhash : (unifyBreaks s).contains '#' = s.contains '#' := by
    rw [Bool.eq_iff_iff, List.contains_iff_mem, List.contains_iff_mem,
      mem_unifyBreaks_iff (by decide) (by decide)]
  simp only [kind?, hhash, Text.mentions_unifyBreaks (w := varKeyword) (by decide) (by decide),
    Text.mentions_unifyBreaks (w := minimizeKeyword) (by decide) (by decide),
    Text.mentions_unifyBreaks (w := maximizeKeyword) (by decide) (by decide),
    Text.mentions_unifyBreaks (w := subjectToMark) (by decide) (by decide)]

theorem alike_unifyBreaks (s : Text) : Alike (unifyBreaks s) s where
  tight := by rw [← Text.trimStart_squeeze, Text.squeeze_unifyBreaks, Text.trimStart_squeeze]
  kind := kind?_unifyBreaks s

end Statement

/-- **Documents are read alike however their line breaks are written.** -/
theorem Document.outcome_read_unifyBreaks (policy : Policy) (text : Text) :
    outcome (read policy (unifyBreaks text)) = outcome (read policy text) := by
  refine outcome_read_of_alike policy ?_
  rw [splitOn_unifyBreaks (by decide) (by decide), List.forall₂_map_left_iff, List.forall₂_same]
  exact fun piece _ => Statement.alike_unifyBreaks piece

end LinearProgram
