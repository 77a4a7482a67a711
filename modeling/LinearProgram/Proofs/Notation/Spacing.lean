import LinearProgram.Proofs.Notation.Form

/-!
# Tight spacing

How much space stands in a text does not matter to its readers, and next to the punctuation between
parts it does not matter whether there is any. To say so without following two texts at once, every
text gets one text that stands for all its spacings (`Text.tight`): a run of blanks becomes a single
space, and it is left out at the ends of the text, next to a divider, and between an operator
character and another character.

**Core** (`Text.squeeze`). The recursion treats a text as if it stood behind a solid character, so
that it can be taken apart from the left: it passes over solid characters (`squeeze_append`), and
what the scanners for keywords, names and blanks find in a squeezed text is what they find in the
text, squeezed.

**Dividers** cut a text and its tight spacing at the same places (`tight_append_cons`,
`splitOn_tight`).
-/

namespace LinearProgram

/-! ## Classes of characters -/

/-- The marks that stand between statements, titles, terms and factors. -/
def isDivider (c : Char) : Bool := c = ';' || c = ':' || c = '+' || c = '*'

/-- Characters next to which blanks may be left out. -/
def isLoose (c : Char) : Bool := isDivider c || isOperatorChar c

/-- Characters that words, literals and signs consist of. -/
def isSolid (c : Char) : Bool := !isBlank c && !isLoose c

variable {c d : Char}

theorem mem_punctuation_of_isLoose (h : isLoose c = true) : c ∈ punctuation := by
  rw [isLoose, Bool.or_eq_true] at h
  rcases h with h | h
  · simp only [isDivider, Bool.or_eq_true, decide_eq_true_eq] at h
    rcases h with ((rfl | rfl) | rfl) | rfl <;> decide
  · exact Statement.mem_punctuation_of_isOperatorChar h

theorem isLoose_of_isDivider (h : isDivider c = true) : isLoose c = true := by simp [isLoose, h]

theorem isLoose_of_isOperatorChar (h : isOperatorChar c = true) : isLoose c = true := by
  simp [isLoose, h]

theorem isBlank_of_isLoose (h : isLoose c = true) : isBlank c = false :=
  isBlank_of_mem_punctuation c (mem_punctuation_of_isLoose h)

theorem isSolid_of_isLoose (h : isLoose c = true) : isSolid c = false := by simp [isSolid, h]

theorem isSolid_of_isBlank (h : isBlank c = true) : isSolid c = false := by simp [isSolid, h]

theorem isBlank_of_isSolid (h : isSolid c = true) : isBlank c = false := by
  simp only [isSolid, Bool.and_eq_true, Bool.not_eq_true'] at h
  exact h.1

theorem isBlank_or_isSolid_or_isLoose (c : Char) :
    isBlank c = true ∨ isSolid c = true ∨ isLoose c = true := by
  cases hblank : isBlank c <;> cases hloose : isLoose c <;> simp [isSolid, hblank, hloose]

theorem isOperatorChar_of_isDivider (h : isDivider c = true) : isOperatorChar c = false := by
  simp only [isDivider, Bool.or_eq_true, decide_eq_true_eq] at h
  rcases h with ((rfl | rfl) | rfl) | rfl <;> decide

theorem isSolid_of_isWord (h : isWord c = true) : isSolid c = true := by
  have hloose : isLoose c = false := by
    by_contra hc
    exact not_mem_punctuation_of_isWord h (mem_punctuation_of_isLoose (by simpa using hc))
  simp [isSolid, isBlank_of_isWord h, hloose]

theorem isSolid_minus : isSolid '-' = true := by decide

theorem isSolid_point : isSolid '.' = true := by decide

namespace Text

variable {s k g x y : Text} {p : Char → Bool}

/-! ## Squeezing -/

/-- The text is a run of blanks with an operator character behind it. -/
def operatorBehindGap (s : Text) : Bool :=
  s.head?.any isBlank && (trimStart s).head?.any isOperatorChar

/-- The spacing of a text behind a solid character: a run of blanks becomes one space, and none
where it is not needed. Two operator characters have to be kept apart. -/
def squeeze : Text → Text
  | [] => []
  | c :: s =>
    if isBlank c then if s.head?.any isSolid then ' ' :: squeeze s else squeeze s
    else if isSolid c then c :: squeeze s
    else if isOperatorChar c && operatorBehindGap s then c :: ' ' :: trimStart (squeeze s)
    else c :: trimStart (squeeze s)

/-- The text with no more space than needed. -/
def tight (s : Text) : Text := squeeze (trimStart s)

@[simp] theorem squeeze_nil : squeeze [] = [] := rfl

@[simp] theorem tight_nil : tight [] = [] := rfl

theorem squeeze_cons_of_isBlank (h : isBlank c = true) (s : Text) :
    squeeze (c :: s) = if s.head?.any isSolid then ' ' :: squeeze s else squeeze s := by
  rw [squeeze, if_pos h]

theorem squeeze_cons_of_isSolid (h : isSolid c = true) (s : Text) :
    squeeze (c :: s) = c :: squeeze s := by
  rw [squeeze, if_neg (by simp [isBlank_of_isSolid h]), if_pos h]

theorem squeeze_cons_of_isLoose (h : isLoose c = true) (s : Text) :
    squeeze (c :: s) = if isOperatorChar c && operatorBehindGap s
      then c :: ' ' :: trimStart (squeeze s) else c :: trimStart (squeeze s) := by
  rw [squeeze, if_neg (by simp [isBlank_of_isLoose h]), if_neg (by simp [isSolid_of_isLoose h])]

/-- Squeezing leaves the first character as it is, unless it is a blank. -/
theorem exists_squeeze_cons (h : isBlank c = false) (s : Text) :
    ∃ rest, squeeze (c :: s) = c :: rest := by
  rcases isBlank_or_isSolid_or_isLoose c with hblank | hsolid | hloose
  · simp [h] at hblank
  · exact ⟨_, squeeze_cons_of_isSolid hsolid s⟩
  · rw [squeeze_cons_of_isLoose hloose]
    split <;> exact ⟨_, rfl⟩

theorem head?_squeeze (h : Stops isBlank s) : (squeeze s).head? = s.head? := by
  cases s with
  | nil => rfl
  | cons c s =>
    obtain ⟨rest, hrest⟩ := exists_squeeze_cons (h c rfl) s
    rw [hrest]
    rfl

theorem stops_squeeze (h : Stops isBlank s) : Stops isBlank (squeeze s) := fun c hc =>
  h c (by rwa [← head?_squeeze h])

/-- Solid characters are left as they are. -/
theorem squeeze_append (hk : ∀ c ∈ k, isSolid c = true) (s : Text) :
    squeeze (k ++ s) = k ++ squeeze s := by
  induction k with
  | nil => rfl
  | cons c k ih =>
    rw [List.cons_append, squeeze_cons_of_isSolid (hk c List.mem_cons_self),
      ih fun d hd => hk d (List.mem_cons_of_mem c hd), List.cons_append]

theorem squeeze_of_isSolid (hk : ∀ c ∈ k, isSolid c = true) : squeeze k = k := by
  simpa using squeeze_append hk []

/-! ## Runs of blanks -/

/-- A run of blanks becomes one space before a solid character, and nothing before another one. -/
theorem squeeze_gap_append (hg : Blank g) (hne : g ≠ []) (s : Text) :
    squeeze (g ++ s) = if s.head?.any isSolid then ' ' :: squeeze s else squeeze s := by
  induction g with
  | nil => exact absurd rfl hne
  | cons c g ih =>
    have hc := hg c List.mem_cons_self
    have hg' : Blank g := fun d hd => hg d (List.mem_cons_of_mem c hd)
    rw [List.cons_append, squeeze_cons_of_isBlank hc]
    cases g with
    | nil => rfl
    | cons d g =>
      have hd : isSolid d = false := isSolid_of_isBlank (hg' d List.mem_cons_self)
      rw [ih hg' (by simp)]
      simp [hd]

/-- A text that begins with blanks, in the form in which it is squeezed. -/
theorem eq_or_exists_gap (s : Text) :
    Stops isBlank s ∨ ∃ g, g ≠ [] ∧ Blank g ∧ s = g ++ trimStart s := by
  obtain ⟨g, hg, hs⟩ := exists_eq_append_trimStart s
  by_cases hne : g = []
  · left
    rw [hs, hne]
    exact stops_trimStart s
  · exact Or.inr ⟨g, hne, hg, hs⟩

theorem trimStart_squeeze (s : Text) : trimStart (squeeze s) = tight s := by
  have htight : trimStart (tight s) = tight s :=
    trimStart_of_stops (stops_squeeze (stops_trimStart s))
  rcases eq_or_exists_gap s with hstops | ⟨g, hne, hg, hs⟩
  · rw [tight, trimStart_of_stops hstops]
    exact trimStart_of_stops (stops_squeeze hstops)
  · conv_lhs => rw [hs, squeeze_gap_append hg hne]
    split
    · exact dropWhile_append_of_stops (a := [' ']) (forall_of_all (by decide))
        (stops_squeeze (stops_trimStart s))
    · exact htight

theorem stops_tight (s : Text) : Stops isBlank (tight s) := stops_squeeze (stops_trimStart s)

theorem tight_of_stops (h : Stops isBlank s) : tight s = squeeze s := by
  rw [tight, trimStart_of_stops h]

theorem tight_append_of_blank (hg : Blank g) (s : Text) : tight (g ++ s) = tight s := by
  rw [tight, hg.trimStart_append, tight]

/-- What stands behind a divider begins anew. -/
theorem squeeze_cons_of_isDivider (h : isDivider c = true) (s : Text) :
    squeeze (c :: s) = c :: tight s := by
  rw [squeeze_cons_of_isLoose (isLoose_of_isDivider h), isOperatorChar_of_isDivider h,
    Bool.false_and, if_neg (by simp), trimStart_squeeze]

/-- The first character is solid in both or in neither. -/
theorem head?_squeeze_eq_some_iff (hc : isSolid c = true) :
    (squeeze s).head? = some c ↔ s.head? = some c := by
  rcases eq_or_exists_gap s with hs | ⟨g, hne, hg, hs⟩
  · rw [head?_squeeze hs]
  · obtain ⟨b, g, rfl⟩ := List.exists_cons_of_ne_nil hne
    have hb := hg b List.mem_cons_self
    have hne : b ≠ c := by
      rintro rfl
      rw [isBlank_of_isSolid hc] at hb
      exact absurd hb (by decide)
    have hspace : ' ' ≠ c := by
      rintro rfl
      exact absurd hc (by decide)
    rw [hs, squeeze_gap_append hg (by simp)]
    split
    · simp [hne, hspace]
    · rename_i hsolid
      rw [head?_squeeze (stops_trimStart s)]
      simp only [List.cons_append, List.head?_cons, Option.some.injEq, hne, iff_false]
      rintro hhead
      simp [hhead, hc] at hsolid

theorem any_head?_squeeze (s : Text) : (squeeze s).head?.any isSolid = s.head?.any isSolid := by
  rw [Bool.eq_iff_iff, Option.any_eq_true, Option.any_eq_true]
  exact exists_congr fun c => and_congr_left fun hc => head?_squeeze_eq_some_iff hc

/-! ## Characters -/

/-- Only blanks stand before the trimmed part. -/
theorem mem_trimStart_iff (hc : isBlank c = false) : c ∈ trimStart s ↔ c ∈ s := by
  obtain ⟨u, hu, hs⟩ := exists_eq_append_trimStart s
  conv_rhs => rw [hs, List.mem_append]
  exact (or_iff_right fun hmem => by simp [hu c hmem] at hc).symm

/-- Characters other than blanks are neither lost nor added. -/
theorem mem_squeeze_iff (hc : isBlank c = false) : c ∈ squeeze s ↔ c ∈ s := by
  have hspace : c ≠ ' ' := by
    rintro rfl
    exact absurd hc (by decide)
  induction s with
  | nil => rfl
  | cons d s ih =>
    rcases isBlank_or_isSolid_or_isLoose d with hblank | hsolid | hloose
    · have hne : c ≠ d := by
        rintro rfl
        simp [hc] at hblank
      rw [squeeze_cons_of_isBlank hblank]
      split <;> simp [hspace, hne, ih]
    · simp [squeeze_cons_of_isSolid hsolid, ih]
    · rw [squeeze_cons_of_isLoose hloose]
      split <;> simp [hspace, mem_trimStart_iff hc, ih]

theorem blank_of_squeeze_eq_nil (h : squeeze s = []) : Blank s := fun c hc => by
  by_contra hblank
  have hmem := (mem_squeeze_iff (by simpa using hblank)).2 hc
  rw [h] at hmem
  exact absurd hmem (by simp)

theorem mem_tight_iff (hc : isBlank c = false) : c ∈ tight s ↔ c ∈ s := by
  rw [tight, mem_squeeze_iff hc, mem_trimStart_iff hc]

/-! ## Ends -/

theorem tight_eq_nil_iff : tight s = [] ↔ trim s = [] := by
  constructor
  · intro h
    have hs : trimStart s = [] := by
      rw [← List.head?_eq_none_iff, ← head?_squeeze (stops_trimStart s),
        show squeeze (trimStart s) = [] from h]
      rfl
    rw [trim, hs]
    rfl
  · intro h
    rw [tight, show trimStart s = [] from List.dropWhile_eq_nil_iff.2 (blank_of_trim_eq_nil h)]
    rfl

theorem isEmpty_tight (s : Text) : (tight s).isEmpty = (trim s).isEmpty := by
  rw [Bool.eq_iff_iff, List.isEmpty_iff, List.isEmpty_iff, tight_eq_nil_iff]

theorem squeeze_of_blank (hg : Blank g) : squeeze g = [] := by
  by_cases hne : g = []
  · rw [hne, squeeze_nil]
  · simpa using squeeze_gap_append hg hne []

/-- Whether an operator stands behind the gap at the beginning of a text can be told without what
is appended, unless that begins with an operator. -/
theorem operatorBehindGap_append (hy : (trimStart y).head?.any isOperatorChar = false) (x : Text) :
    operatorBehindGap (x ++ y) = operatorBehindGap x := by
  cases x with
  | nil => simp [operatorBehindGap, hy]
  | cons c x =>
    have hhead : (trimStart (c :: x ++ y)).head?.any isOperatorChar =
        (trimStart (c :: x)).head?.any isOperatorChar := by
      rw [trimStart, List.dropWhile_append]
      split
      · rename_i hx
        have hnil : trimStart (c :: x) = [] := List.isEmpty_iff.1 hx
        rw [show y.dropWhile isBlank = trimStart y from rfl, hy, hnil]
        rfl
      · rename_i hx
        rw [List.head?_append_of_ne_nil _ (by simpa using hx), trimStart]
    rw [operatorBehindGap, operatorBehindGap, hhead]
    rfl

/-- **Where a text may be cut.** Behind the gap there is nothing or a loose character, and no other
operator character stands before an operator character. -/
theorem squeeze_append_of_loose (hy : ∀ c, (trimStart y).head? = some c → isLoose c = true)
    (h : (∀ c ∈ x, isOperatorChar c = false) ∨
      (trimStart y).head?.any isOperatorChar = false) :
    squeeze (x ++ y) = squeeze x ++ squeeze y := by
  have hhead : y.head?.any isSolid = false := by
    cases y with
    | nil => rfl
    | cons c y =>
      by_cases hc : isBlank c = true
      · simpa using isSolid_of_isBlank hc
      · have hstart : trimStart (c :: y) = c :: y := List.dropWhile_cons_of_neg hc
        simpa using isSolid_of_isLoose (hy c (by rw [hstart]; rfl))
  have hstops : Stops isBlank (squeeze y) := by
    rcases eq_or_exists_gap y with hy | ⟨g, hne, hg, hgap⟩
    · exact stops_squeeze hy
    · have hnot : ¬(trimStart y).head?.any isSolid = true := by
        rw [Option.any_eq_true]
        rintro ⟨c, hc, hsolid⟩
        rw [isSolid_of_isLoose (hy c hc)] at hsolid
        exact absurd hsolid (by decide)
      rw [hgap, squeeze_gap_append hg hne, if_neg hnot]
      exact stops_tight y
  induction x with
  | nil => rfl
  | cons c x ih =>
    have ih := ih (h.imp_left fun hx d hd => hx d (List.mem_cons_of_mem c hd))
    rw [List.cons_append]
    rcases isBlank_or_isSolid_or_isLoose c with hblank | hsolid | hloose
    · have hsame : (x ++ y).head?.any isSolid = x.head?.any isSolid := by
        cases x with
        | nil => simpa using hhead
        | cons d x => rfl
      rw [squeeze_cons_of_isBlank hblank, squeeze_cons_of_isBlank hblank, hsame, ih]
      split <;> rfl
    · rw [squeeze_cons_of_isSolid hsolid, squeeze_cons_of_isSolid hsolid, ih, List.cons_append]
    · have hsame : (isOperatorChar c && operatorBehindGap (x ++ y)) =
          (isOperatorChar c && operatorBehindGap x) := by
        rcases h with hx | hy
        · rw [hx c List.mem_cons_self, Bool.false_and, Bool.false_and]
        · rw [operatorBehindGap_append hy]
      rw [squeeze_cons_of_isLoose hloose, squeeze_cons_of_isLoose hloose, hsame, ih,
        trimStart_append_of_stops hstops]
      split <;> rfl

theorem squeeze_append_of_blank (hg : Blank g) (s : Text) : squeeze (s ++ g) = squeeze s := by
  have hnil : trimStart g = [] := List.dropWhile_eq_nil_iff.2 hg
  rw [squeeze_append_of_loose (by simp [hnil]) (Or.inr (by simp [hnil])), squeeze_of_blank hg,
    List.append_nil]

/-- Squeezing leaves the last character as it is, unless it is a blank. -/
theorem exists_squeeze_concat (hd : isBlank d = false) (x : Text) :
    ∃ z, squeeze (x ++ [d]) = z ++ [d] := by
  induction x with
  | nil =>
    rcases isBlank_or_isSolid_or_isLoose d with hblank | hsolid | hloose
    · simp [hd] at hblank
    · exact ⟨[], squeeze_cons_of_isSolid hsolid []⟩
    · exact ⟨[], by simp [squeeze_cons_of_isLoose hloose, operatorBehindGap]⟩
  | cons c x ih =>
    obtain ⟨z, hz⟩ := ih
    rw [List.cons_append]
    rcases isBlank_or_isSolid_or_isLoose c with hblank | hsolid | hloose
    · rw [squeeze_cons_of_isBlank hblank, hz]
      split
      · exact ⟨' ' :: z, rfl⟩
      · exact ⟨z, rfl⟩
    · exact ⟨c :: z, by rw [squeeze_cons_of_isSolid hsolid, hz, List.cons_append]⟩
    · rw [squeeze_cons_of_isLoose hloose, hz, trimStart_append_of_stops (stops_cons hd [])]
      split
      · exact ⟨c :: ' ' :: trimStart z, rfl⟩
      · exact ⟨c :: trimStart z, rfl⟩

theorem tight_append_of_blank_right (hg : Blank g) (s : Text) : tight (s ++ g) = tight s := by
  rw [← trimStart_squeeze, squeeze_append_of_blank hg, trimStart_squeeze]

theorem tight_trim (s : Text) : tight (trim s) = tight s := by
  obtain ⟨u, v, hu, hv, hs⟩ := exists_eq_append_trim_append s
  conv_rhs => rw [hs, tight_append_of_blank_right hv, tight_append_of_blank hu]

theorem trimmed_tight (s : Text) : Trimmed (tight s) := by
  refine trimmed_iff.2 ⟨stops_tight s, fun c hc => ?_⟩
  rw [← tight_trim, tight_of_stops (trimmed_trim s).stops_isBlank] at hc
  rcases List.eq_nil_or_concat' (trim s) with hnil | ⟨x, d, hx⟩
  · simp [hnil] at hc
  · have hd : isBlank d = false := (trimmed_iff.1 (trimmed_trim s)).2 d (by simp [hx])
    obtain ⟨z, hz⟩ := exists_squeeze_concat hd x
    rw [hx, hz, List.getLast?_concat, Option.some.injEq] at hc
    rwa [← hc]

theorem trim_tight (s : Text) : trim (tight s) = tight s := trimmed_tight s

theorem trim_squeeze (s : Text) : trim (squeeze s) = tight s := by
  rw [← trim_tight s, trim, trimStart_squeeze, trim, trimStart_of_stops (stops_tight s)]

/-! ## Dividers -/

/-- A divider stands between the tight spacings of its two sides. -/
theorem tight_append_cons (hc : isDivider c = true) (x y : Text) :
    tight (x ++ c :: y) = tight x ++ c :: tight y := by
  have hblank := isBlank_of_isLoose (isLoose_of_isDivider hc)
  have hstart : trimStart (c :: y) = c :: y := trimStart_of_stops (stops_cons hblank y)
  have hcut : squeeze (trimStart x ++ c :: y) = squeeze (trimStart x) ++ squeeze (c :: y) := by
    refine squeeze_append_of_loose ?_ (Or.inr ?_)
    · simpa [hstart] using isLoose_of_isDivider hc
    · simpa [hstart] using isOperatorChar_of_isDivider hc
  rw [tight, trimStart_append_of_stops (stops_cons hblank y), hcut, squeeze_cons_of_isDivider hc]
  rfl

/-- **Dividers cut the tight spacing into the tight spacings of the pieces.** -/
theorem splitOn_tight (hc : isDivider c = true) (s : Text) :
    (tight s).splitOn c = (s.splitOn c).map tight := by
  have hblank := isBlank_of_isLoose (isLoose_of_isDivider hc)
  induction s using separator_induction (c := c) with
  | last s hmem =>
    have htight : c ∉ tight s := fun h => hmem ((mem_tight_iff hblank).1 h)
    rw [List.splitOn_eq_singleton hmem, List.splitOn_eq_singleton htight, List.map_singleton]
  | cut first rest hfirst ih =>
    have htight : c ∉ tight first := fun h => hfirst ((mem_tight_iff hblank).1 h)
    rw [tight_append_cons hc, splitOn_append_cons, splitOn_append_cons, ih,
      List.splitOn_eq_singleton hfirst, List.splitOn_eq_singleton htight, List.map_append,
      List.map_singleton]

/-! ## Solid texts -/

/-- A trimmed text is solid when its tight spacing is: where a blank stands between solid
characters, a space remains. -/
theorem isSolid_of_tight (hs : Trimmed s) (h : ∀ c ∈ tight s, isSolid c = true) :
    ∀ c ∈ s, isSolid c = true := by
  -- A character that is neither solid nor a blank would still be there.
  have hnonblank (c : Char) (hc : c ∈ s) (hblank : isBlank c = false) : isSolid c = true :=
    h c ((mem_tight_iff hblank).2 hc)
  obtain ⟨k, rest, hsplit, hsolid, hstops⟩ := exists_run_append isSolid s
  rcases eq_or_exists_gap rest with hrest | ⟨g, hne, hg, hgap⟩
  · cases rest with
    | nil => rwa [hsplit, List.append_nil]
    | cons c rest =>
      have := hnonblank c (by simp [hsplit]) (hrest c rfl)
      rw [hstops c rfl] at this
      exact absurd this (by decide)
  · exfalso
    cases hbehind : trimStart rest with
    | nil =>
      -- Nothing stands behind the gap, so the text ends with blanks.
      rw [hsplit, hgap, hbehind, List.append_nil] at hs
      exact hne (hs.eq_nil_of_blank hg)
    | cons d behind =>
      have hd : isBlank d = false := stops_trimStart rest d (by rw [hbehind]; rfl)
      have hmem : d ∈ s := by
        rw [hsplit, hgap, hbehind]
        simp
      have hdSolid := hnonblank d hmem hd
      have hspace : ' ' ∈ tight s := by
        rw [tight_of_stops hs.stops_isBlank, hsplit, squeeze_append hsolid, hgap, hbehind,
          squeeze_gap_append hg hne]
        simp [hdSolid]
      exact absurd (h ' ' hspace) (by decide)

theorem tight_of_isSolid (h : ∀ c ∈ s, isSolid c = true) : tight s = s := by
  have hstops : Stops isBlank s := stops_of_forall fun c hc => isBlank_of_isSolid (h c hc)
  rw [tight_of_stops hstops, squeeze_of_isSolid h]

/-- **What only solid texts have, a trimmed text and its tight spacing have in common.** -/
theorem apply_tight {β : Type} {f : Text → β} {b : β}
    (hf : ∀ t, f t ≠ b → ∀ c ∈ t, isSolid c = true) (hs : Trimmed s) :
    f (tight s) = f s := by
  by_cases h : ∀ c ∈ s, isSolid c = true
  · rw [tight_of_isSolid h]
  · have hleft : f (tight s) = b := by
      by_contra hne
      exact h (isSolid_of_tight hs (hf _ hne))
    have hright : f s = b := by
      by_contra hne
      exact h (hf s hne)
    rw [hleft, hright]

theorem isName_tight (hs : Trimmed s) : isName (tight s) = isName s :=
  apply_tight (b := false)
    (fun t h c hc => isSolid_of_isWord (isWord_of_isName (by simpa using h) hc)) hs

theorem readLiteral?_tight (hs : Trimmed s) : readLiteral? (tight s) = readLiteral? s := by
  refine apply_tight (b := none) (fun t h c hc => ?_) hs
  obtain ⟨value, hvalue⟩ := Option.ne_none_iff_exists'.1 h
  obtain ⟨l, rfl, -⟩ := readLiteral?_eq_some_iff.1 hvalue
  rcases Literal.isDigit_or_eq_of_mem_text hc with hc | rfl
  · exact isSolid_of_isWord (isWord_of_isDigit hc)
  · exact isSolid_point

end Text

end LinearProgram
