import LinearProgram.Proofs.Notation.Spacing

/-!
# Reading tightly spaced text

Every reader finds in the tight spacing of a text what it finds in the text, and where it fails, it
fails in the same way: the result is the same up to the words of the fault (`outcome`).

**Scanners** take a keyword, a gap or a name from the left. They commute with squeezing: what they
leave of a squeezed text is what they leave of the text, squeezed (`afterPrefix?_squeeze`,
`named?_squeeze`). A gap is recognised only by what stands behind it, since before anything but a
solid character squeezing leaves no space (`afterBlanks?_squeeze_bind`).

**Readers** cut the rest at dividers, which tight spacing keeps (`outcome_readTerms_tight`). A
comparison is cut at its run of operator characters (`Comparison.ofBody_tight`).
-/

namespace LinearProgram

/-- What was read, or of which kind the fault is. -/
def outcome {α : Type} (result : Except Fault α) : Except FaultKind α :=
  result.mapError fun fault => fault.cause.kind

@[simp] theorem outcome_ok {α : Type} (a : α) : outcome (.ok a) = .ok a := rfl

@[simp] theorem outcome_error {α : Type} (fault : Fault) :
    outcome (.error fault : Except Fault α) = .error fault.cause.kind := rfl

/-- Two outcomes agree when both results are the same or both are faults of one kind. -/
theorem outcome_eq_iff {α : Type} {result result' : Except Fault α} :
    outcome result = outcome result' ↔ (∃ a, result = .ok a ∧ result' = .ok a) ∨
      ∃ fault fault', result = .error fault ∧ result' = .error fault' ∧
        fault.cause.kind = fault'.cause.kind := by
  cases result <;> cases result' <;> simp [eq_comm]

/-! ## Scanners -/

namespace Text

variable {k s rest : Text}

theorem afterPrefix?_squeeze (hk : ∀ c ∈ k, isSolid c = true) (s : Text) :
    afterPrefix? k (squeeze s) = (afterPrefix? k s).map squeeze := by
  induction k generalizing s with
  | nil => rfl
  | cons p k ih =>
    have ih := ih fun c hc => hk c (List.mem_cons_of_mem p hc)
    have hp := hk p List.mem_cons_self
    by_cases hhead : s.head? = some p
    · cases s with
      | nil => simp at hhead
      | cons c s =>
        obtain rfl : c = p := by simpa using hhead
        simp [squeeze_cons_of_isSolid hp, afterPrefix?, ih]
    · have hnone {t : Text} (ht : t.head? ≠ some p) : afterPrefix? (p :: k) t = none := by
        cases t with
        | nil => rfl
        | cons c t =>
          have : p ≠ c := fun h => ht (by rw [h]; rfl)
          simp [afterPrefix?, this]
      have hsqueezed : (squeeze s).head? ≠ some p := fun h =>
        hhead ((head?_squeeze_eq_some_iff hp).1 h)
      rw [hnone hhead, hnone hsqueezed]
      rfl

theorem leadingName?_squeeze (s : Text) :
    leadingName? (squeeze s) = (leadingName? s).map (Prod.map id squeeze) := by
  obtain ⟨word, rest, rfl, hword, hrest⟩ := exists_run_append isWord s
  have hstops : Stops isWord (squeeze rest) := fun c hc => by
    by_contra hnot
    have hsolid := isSolid_of_isWord (c := c) (by simpa using hnot)
    exact hnot (hrest c ((head?_squeeze_eq_some_iff hsolid).1 hc))
  rw [squeeze_append fun c hc => isSolid_of_isWord (hword c hc), leadingName?, leadingName?,
    takeWhile_append_of_stops hword hrest, dropWhile_append_of_stops hword hrest,
    takeWhile_append_of_stops hword hstops, dropWhile_append_of_stops hword hstops]
  split <;> rfl

theorem afterBlanks?_of_stops (h : Stops isBlank s) : afterBlanks? s = none := by
  cases s with
  | nil => rfl
  | cons c s => simp [afterBlanks?, h c rfl]

/-- A gap is found alike by whoever looks for a solid character behind it. -/
theorem afterBlanks?_squeeze_bind {β : Type} {f : Text → Option β}
    (hf : ∀ t, t.head?.any isSolid = false → f t = none) (s : Text) :
    (afterBlanks? (squeeze s)).bind f = (afterBlanks? s).bind fun rest => f (squeeze rest) := by
  have hgap {g rest : Text} (hne : g ≠ []) (hg : Blank g) (hrest : Stops isBlank rest) :
      afterBlanks? (g ++ rest) = some rest :=
    afterBlanks?_eq_some_iff.2 ⟨⟨g, hne, hg⟩, rfl, hrest⟩
  rcases eq_or_exists_gap s with hs | ⟨g, hne, hg, hs⟩
  · rw [afterBlanks?_of_stops hs, afterBlanks?_of_stops (stops_squeeze hs)]
    rfl
  · have hstops := stops_trimStart s
    generalize trimStart s = rest at hs hstops
    rw [hs, hgap hne hg hstops, squeeze_gap_append hg hne, Option.bind_some]
    split
    · rw [show ' ' :: squeeze rest = [' '] ++ squeeze rest from rfl,
        hgap (by simp) (forall_of_all (by decide)) (stops_squeeze hstops), Option.bind_some]
    · rename_i hsolid
      have hnone : f (squeeze rest) = none := hf _ (by simpa [any_head?_squeeze] using hsolid)
      rw [afterBlanks?_of_stops (stops_squeeze hstops), hnone]
      rfl

theorem leadingName?_of_not_solid (h : s.head?.any isSolid = false) : leadingName? s = none := by
  cases s with
  | nil => rfl
  | cons c s =>
    have hc : isWord c = false := by
      by_contra hnot
      have := isSolid_of_isWord (c := c) (by simpa using hnot)
      simp [this] at h
    rw [leadingName?, List.takeWhile_cons_of_neg (by simp [hc])]
    rfl

end Text

namespace Statement

variable {s : Text}

theorem named?_squeeze (s : Text) :
    named? (Text.squeeze s) = (named? s).map (Prod.map id Text.squeeze) := by
  rw [named?, named?, Text.afterBlanks?_squeeze_bind fun t => Text.leadingName?_of_not_solid]
  simp only [Text.leadingName?_squeeze]
  exact Option.map_bind.symm

/-- The body behind a title is spaced tightly: it stands behind a colon. -/
theorem titled?_squeeze (s : Text) :
    titled? (Text.squeeze s) = (titled? s).map (Prod.map id Text.tight) := by
  rw [titled?, titled?, named?_squeeze]
  cases named? s with
  | none => rfl
  | some found =>
    obtain ⟨name, rest⟩ := found
    simp only [Option.map_some, Prod.map_apply, id_eq, Text.trimStart_squeeze, Text.tight]
    have hstops := Text.stops_trimStart rest
    generalize Text.trimStart rest = behind at hstops
    cases behind with
    | nil => rfl
    | cons c body =>
      by_cases hc : c = ':'
      · subst hc
        rw [Text.squeeze_cons_of_isDivider (by decide)]
        rfl
      · obtain ⟨others, hothers⟩ := Text.exists_squeeze_cons (hstops c rfl) body
        rw [hothers]
        simp [hc]

theorem isSolid_varKeyword : ∀ c ∈ varKeyword, isSolid c = true :=
  Text.forall_of_all (by decide +kernel)

theorem isSolid_keyword (direction : Direction) : ∀ c ∈ keyword direction, isSolid c = true := by
  cases direction <;> exact Text.forall_of_all (by decide +kernel)

theorem isSolid_subjectKeyword : ∀ c ∈ subjectKeyword, isSolid c = true :=
  Text.forall_of_all (by decide +kernel)

theorem isSolid_toKeyword : ∀ c ∈ toKeyword, isSolid c = true :=
  Text.forall_of_all (by decide +kernel)

theorem objectiveParts?_squeeze (s : Text) : objectiveParts? (Text.squeeze s) =
    (objectiveParts? s).map (Prod.map id (Prod.map id Text.tight)) := by
  have hprefix (direction : Direction) :
      Text.afterPrefix? (keyword direction) (Text.squeeze s) =
        (Text.afterPrefix? (keyword direction) s).map Text.squeeze :=
    Text.afterPrefix?_squeeze (isSolid_keyword direction) s
  have hminimize := hprefix .minimize
  have hmaximize := hprefix .maximize
  simp only [keyword] at hminimize hmaximize
  rw [objectiveParts?, objectiveParts?, hminimize, hmaximize]
  cases Text.afterPrefix? minimizeKeyword s with
  | some rest =>
    simp only [Option.map_some, titled?_squeeze, Option.map_map]
    rfl
  | none =>
    cases Text.afterPrefix? maximizeKeyword s with
    | some rest =>
      simp only [Option.map_none, Option.map_some, titled?_squeeze, Option.map_map]
      rfl
    | none => rfl

theorem constraintParts?_squeeze (s : Text) : constraintParts? (Text.squeeze s) =
    (constraintParts? s).map (Prod.map id Text.tight) := by
  have hto (t : Text) (ht : t.head?.any isSolid = false) :
      Text.afterPrefix? toKeyword t = none := by
    cases t with
    | nil => rfl
    | cons c t =>
      have hne : 't' ≠ c := by
        rintro rfl
        rw [List.head?_cons, Option.any_some] at ht
        exact absurd ht (by decide)
      simp [toKeyword, Text.afterPrefix?, hne]
  have hgap (t : Text) :
      (Text.afterBlanks? (Text.squeeze t)).bind (Text.afterPrefix? toKeyword) =
        ((Text.afterBlanks? t).bind (Text.afterPrefix? toKeyword)).map Text.squeeze := by
    rw [Text.afterBlanks?_squeeze_bind hto]
    simp only [Text.afterPrefix?_squeeze isSolid_toKeyword]
    exact Option.map_bind.symm
  rw [constraintParts?, constraintParts?, Text.afterPrefix?_squeeze isSolid_subjectKeyword]
  cases Text.afterPrefix? subjectKeyword s with
  | none => rfl
  | some rest =>
    simp only [Option.map_some, Option.bind_some, hgap]
    cases (Text.afterBlanks? rest).bind (Text.afterPrefix? toKeyword) with
    | none => rfl
    | some behind => exact titled?_squeeze behind

/-- A trimmed text declares the same name when it is squeezed. -/
theorem declared?_squeeze (h : Text.Trimmed s) : declared? (Text.squeeze s) = declared? s := by
  rw [declared?, declared?, Text.afterPrefix?_squeeze isSolid_varKeyword]
  cases hvar : Text.afterPrefix? varKeyword s with
  | none => rfl
  | some rest =>
    simp only [Option.map_some, Option.bind_some, named?_squeeze]
    cases hnamed : named? rest with
    | none => rfl
    | some found =>
      obtain ⟨name, behind⟩ := found
      simp only [Option.map_some, Prod.map_apply, id_eq]
      -- What stands behind the name does not consist of blanks, since the text ends with it.
      have hend : Text.squeeze behind = [] → behind = [] := by
        intro hnil
        obtain ⟨gap, n, rfl, hrest, -⟩ := named?_eq_some_iff.1 hnamed
        rw [Text.afterPrefix?_eq_some_iff.1 hvar, hrest, ← List.append_assoc,
          ← List.append_assoc] at h
        exact h.eq_nil_of_blank (Text.blank_of_squeeze_eq_nil hnil)
      cases behind with
      | nil => rfl
      | cons c behind =>
        cases hsqueezed : Text.squeeze (c :: behind) with
        | nil => exact absurd (hend hsqueezed) (by simp)
        | cons d others => rfl

end Statement

/-! ## Terms and sums -/

variable {s : Text} {statement statement' : Text}

theorem splitMinus_tight (h : Text.Trimmed s) :
    splitMinus (Text.tight s) = ((splitMinus s).1, Text.tight (splitMinus s).2) := by
  have hstops := h.stops_isBlank
  rw [Text.tight_of_stops hstops]
  cases s with
  | nil => rfl
  | cons c s =>
    by_cases hc : c = '-'
    · subst hc
      rw [Text.squeeze_cons_of_isSolid isSolid_minus]
      show (true, Text.trim (Text.squeeze s)) = (true, Text.tight (Text.trim s))
      rw [Text.trim_squeeze, Text.tight_trim]
    · have hother {t : Text} : splitMinus (c :: t) = (false, c :: t) := by
        unfold splitMinus
        split
        · rename_i heq
          exact absurd (List.cons.inj heq).1 hc
        · rfl
      obtain ⟨rest, hrest⟩ := Text.exists_squeeze_cons (hstops c rfl) s
      rw [hother, Text.tight_of_stops hstops, hrest, hother]

/-- The star cuts a text and its tight spacing in the same place. -/
theorem outcome_splitFactor_tight (statement statement' s : Text) :
    outcome (splitFactor statement (Text.tight s)) =
      (outcome (splitFactor statement' s)).map (Prod.map id Text.tight) := by
  have hmem : '*' ∈ Text.tight s ↔ '*' ∈ s := Text.mem_tight_iff (by decide)
  by_cases hstar : '*' ∈ s
  · obtain ⟨x, y, rfl, hx⟩ := List.eq_append_cons_of_mem hstar
    have hx' : '*' ∉ Text.tight x := fun h => hx ((Text.mem_tight_iff (by decide)).1 h)
    have hliteral : readLiteral? (Text.tight x) = readLiteral? (Text.trim x) := by
      rw [← Text.tight_trim, Text.readLiteral?_tight (Text.trimmed_trim x)]
    rw [Text.tight_append_cons (by decide), splitFactor_append_star hx', splitFactor_append_star hx,
      Text.trim_tight, Text.trim_tight, Text.isEmpty_tight, hliteral]
    split
    · rfl
    · cases readLiteral? (Text.trim x) with
      | none => rfl
      | some value => simp [Except.map, Text.tight_trim]
  · simp [splitFactor, hstar, hmem, Except.map]

theorem trimmed_of_splitFactor {value : Number} {name : Text} (hs : Text.Trimmed s)
    (h : splitFactor statement s = .ok (value, name)) : Text.Trimmed name := by
  simp only [splitFactor] at h
  split at h
  · split at h
    · simp at h
    · split at h
      · obtain ⟨-, rfl⟩ : _ ∧ Text.trim _ = name := by simpa using h
        exact Text.trimmed_trim _
      · simp at h
  · obtain ⟨-, rfl⟩ : _ ∧ s = name := by simpa using h
    exact hs

/-- **Terms.** -/
theorem outcome_readTerm_tight (statement statement' s : Text) :
    outcome (readTerm (some statement) (Text.tight s)) =
      outcome (readTerm (some statement') s) := by
  have htrim := Text.trimmed_trim s
  have hminus : splitMinus (Text.tight s) =
      ((splitMinus (Text.trim s)).1, Text.tight (splitMinus (Text.trim s)).2) := by
    rw [← Text.tight_trim, splitMinus_tight htrim]
  have hfactor := outcome_splitFactor_tight statement statement' (splitMinus (Text.trim s)).2
  simp only [readTerm, Option.getD_some, Text.trim_tight, Text.isEmpty_tight, hminus]
  split
  · rfl
  · cases hsplit : splitFactor statement' (splitMinus (Text.trim s)).2 with
    | error fault =>
      cases htight : splitFactor statement (Text.tight (splitMinus (Text.trim s)).2) with
      | error why => simpa [hsplit, htight, Except.map] using hfactor
      | ok found => simp [hsplit, htight, Except.map] at hfactor
    | ok found =>
      obtain ⟨value, name⟩ := found
      have hname : Text.Trimmed name := trimmed_of_splitFactor (trimmed_splitMinus htrim) hsplit
      cases htight : splitFactor statement (Text.tight (splitMinus (Text.trim s)).2) with
      | error why => simp [hsplit, htight, Except.map] at hfactor
      | ok other =>
        obtain rfl : other = (value, Text.tight name) := by
          simpa [hsplit, htight, Except.map] using hfactor
        simp only [Text.isName_tight hname]
        split
        · rename_i hisName
          rw [Text.tight_of_isSolid fun c hc => isSolid_of_isWord (isWord_of_isName hisName hc)]
        · rfl

/-- Items that are read alike, one after the other. -/
theorem outcome_mapM {α β : Type} (read : α → Except Fault β) (items : List α) :
    outcome (items.mapM read) = items.mapM fun item => outcome (read item) := by
  induction items with
  | nil => rfl
  | cons item items ih =>
    rw [List.mapM_cons, List.mapM_cons, ← ih]
    cases read item with
    | error fault => rfl
    | ok result => cases items.mapM read <;> rfl

/-- **Sums.** -/
theorem outcome_readTerms_tight (statement statement' s : Text) :
    outcome (readTerms (some statement) (Text.tight s)) =
      outcome (readTerms (some statement') s) := by
  simp only [readTerms, Option.getD_some, Text.trim_tight, Text.isEmpty_tight]
  split
  · rfl
  · rw [Text.splitOn_tight (by decide), List.mapM_map, outcome_mapM, outcome_mapM]
    exact congrArg (fun read => List.mapM read _)
      (funext fun piece => outcome_readTerm_tight statement statement' piece)

namespace Statement

/-! ## Comparisons -/

/-- A run of operator characters stays as it is, and no other one comes to stand next to it. -/
theorem squeeze_operators {token rest : Text} (hne : token ≠ [])
    (htoken : ∀ c ∈ token, isOperatorChar c = true) (hrest : Text.Stops isOperatorChar rest) :
    ∃ behind, Text.squeeze (token ++ rest) = token ++ behind ∧
      Text.Stops isOperatorChar behind ∧ Text.trim behind = Text.tight rest := by
  induction token with
  | nil => exact absurd rfl hne
  | cons c token ih =>
    have hc := htoken c List.mem_cons_self
    have htoken' : ∀ d ∈ token, isOperatorChar d = true := fun d hd =>
      htoken d (List.mem_cons_of_mem c hd)
    rw [List.cons_append, Text.squeeze_cons_of_isLoose (isLoose_of_isOperatorChar hc), hc,
      Bool.true_and, Text.trimStart_squeeze]
    cases token with
    | nil =>
      rw [List.nil_append]
      split
      · -- An operator character stands behind the gap: a space keeps the two apart.
        refine ⟨' ' :: Text.tight rest, rfl, Text.stops_cons (by decide) _, ?_⟩
        have hspace : Text.Blank [' '] := Text.forall_of_all (by decide)
        exact (Text.trimmed_tight rest).trim_append_left hspace
      · rename_i hbehind
        refine ⟨Text.tight rest, rfl, fun d hd => ?_, Text.trim_tight rest⟩
        rw [Text.tight, Text.head?_squeeze (Text.stops_trimStart rest)] at hd
        rcases Text.eq_or_exists_gap rest with hstops | ⟨g, hne, hg, hgap⟩
        · rw [Text.trimStart_of_stops hstops] at hd
          exact hrest d hd
        · obtain ⟨b, g, rfl⟩ := List.exists_cons_of_ne_nil hne
          have hb : rest.head? = some b := by rw [hgap]; rfl
          simpa [Text.operatorBehindGap, hb, hg b List.mem_cons_self, hd] using hbehind
    | cons d token =>
      obtain ⟨behind, hbehind, hstops, htrim⟩ := ih (by simp) htoken'
      have hd := isBlank_of_isLoose (isLoose_of_isOperatorChar (htoken' d List.mem_cons_self))
      have hgap : Text.operatorBehindGap (d :: token ++ rest) = false := by
        simp [Text.operatorBehindGap, hd]
      have hsame : Text.tight (d :: token ++ rest) = d :: token ++ behind := by
        rw [← hbehind]
        exact Text.tight_of_stops (Text.stops_cons hd _)
      rw [hgap, if_neg (by simp), hsame]
      exact ⟨behind, rfl, hstops, htrim⟩

/-- The tight spacing of a body that has an operator. -/
theorem tight_comparison {left token rest : Text} (hne : token ≠ [])
    (hleft : ∀ c ∈ left, isOperatorChar c = false)
    (htoken : ∀ c ∈ token, isOperatorChar c = true) (hrest : Text.Stops isOperatorChar rest) :
    ∃ behind, Text.tight (left ++ (token ++ rest)) = Text.tight left ++ (token ++ behind) ∧
      Text.Stops isOperatorChar behind ∧ Text.trim behind = Text.tight rest := by
  obtain ⟨behind, hbehind, hstops, htrim⟩ := squeeze_operators hne htoken hrest
  refine ⟨behind, ?_, hstops, htrim⟩
  have hfirst : ∀ c, (token ++ rest).head? = some c → isLoose c = true := fun c hc => by
    rw [List.head?_append_of_ne_nil _ hne] at hc
    exact isLoose_of_isOperatorChar (htoken c (List.mem_of_head? hc))
  have hblank : Text.Stops isBlank (token ++ rest) := fun c hc => isBlank_of_isLoose (hfirst c hc)
  have hleft' : ∀ c ∈ Text.trimStart left, isOperatorChar c = false := fun c hc =>
    hleft c ((Text.trimStart_suffix left).subset hc)
  have hcut : Text.squeeze (Text.trimStart left ++ (token ++ rest)) =
      Text.squeeze (Text.trimStart left) ++ Text.squeeze (token ++ rest) :=
    Text.squeeze_append_of_loose (by rwa [Text.trimStart_of_stops hblank]) (Or.inl hleft')
  rw [Text.tight, Text.trimStart_append_of_stops hblank, hcut, hbehind]
  rfl

theorem isOperatorChar_of_mem_tight (h : ∀ c ∈ s, isOperatorChar c = false) :
    ∀ c ∈ Text.tight s, isOperatorChar c = false := fun c hc => by
  by_contra hop
  have hop : isOperatorChar c = true := by simpa using hop
  have hblank := isBlank_of_isLoose (isLoose_of_isOperatorChar hop)
  rw [h c ((Text.mem_tight_iff hblank).1 hc)] at hop
  exact absurd hop (by decide)

theorem Comparison.ofBody_tight (body : Text) : Comparison.ofBody (Text.tight body) =
    ⟨Text.tight (Comparison.ofBody body).left, (Comparison.ofBody body).token,
      Text.tight (Comparison.ofBody body).right⟩ := by
  obtain ⟨left, token, rest, rfl, hleft, htoken, hstart, hrest⟩ :=
    Comparison.exists_eq_append body
  have hleft' := isOperatorChar_of_mem_tight hleft
  rw [Comparison.ofBody_append hleft htoken hstart hrest]
  cases token with
  | nil =>
    -- Without an operator there is nothing but the left side.
    cases rest with
    | nil =>
      have := @Comparison.ofBody_append _ [] [] hleft' (by simp) (Text.stops_nil _)
        (Text.stops_nil _)
      simpa using this
    | cons c rest =>
      have := hstart c rfl
      simp [hrest c rfl] at this
  | cons c token =>
    obtain ⟨behind, htight, hstops, htrim⟩ := tight_comparison (by simp) hleft htoken hrest
    have hstart' : Text.Stops (fun c => !isOperatorChar c) (c :: token ++ behind) :=
      (Text.stops_of_forall fun d hd => by simp [htoken d hd]).append (by simp) behind
    rw [htight, Comparison.ofBody_append hleft' htoken hstart' hstops, htrim, Text.tight_trim]

theorem outcome_readConstant_tight (statement statement' : Text) (h : Text.Trimmed s) :
    outcome (readConstant statement (Text.tight s)) = outcome (readConstant statement' s) := by
  simp only [readConstant, splitMinus_tight h, Text.readLiteral?_tight (trimmed_splitMinus h)]
  cases readLiteral? (splitMinus s).2 <;> rfl

/-- **Comparisons.** -/
theorem outcome_readComparison_tight (strict : Bool) (statement statement' name body : Text) :
    outcome (readComparison strict statement name (Text.tight body)) =
      outcome (readComparison strict statement' name body) := by
  have hright : Text.Trimmed (Comparison.ofBody body).right := Text.trimmed_trim _
  simp only [readComparison, Comparison.ofBody_tight]
  generalize Comparison.ofBody body = parts at *
  have hempty : (Text.tight parts.right).isEmpty = parts.right.isEmpty := by
    rw [Text.isEmpty_tight, hright]
  have hany : (Text.tight parts.right).any isOperatorChar = parts.right.any isOperatorChar := by
    rw [Bool.eq_iff_iff, List.any_eq_true, List.any_eq_true]
    exact exists_congr fun c => and_congr_left fun hc =>
      Text.mem_tight_iff (isBlank_of_isLoose (isLoose_of_isOperatorChar hc))
  have hconstant := outcome_readConstant_tight statement statement' hright
  have hterms := outcome_readTerms_tight statement statement' parts.left
  simp only [Text.trim_tight, Text.isEmpty_tight, hempty, hany]
  split
  · rfl
  split
  · rfl
  split
  · rfl
  split
  · rfl
  cases readOperator strict parts.token with
  | error fault => rfl
  | ok relation =>
    rcases outcome_eq_iff.1 hconstant with ⟨constant, hc, hc'⟩ | ⟨fault, fault', hc, hc', hkind⟩
    · rcases outcome_eq_iff.1 hterms with ⟨terms, ht, ht'⟩ | ⟨fault, fault', ht, ht', hkind⟩
      · simp only [hc, hc', ht, ht']
      · simpa only [hc, hc', ht, ht', outcome_error, Except.error.injEq] using hkind
    · simpa only [hc, hc', outcome_error, Except.error.injEq] using hkind

/-! ## Statements -/

theorem outcome_readDeclaration_tight (s : Text) :
    outcome (readDeclaration (Text.tight s)) = outcome (readDeclaration s) := by
  have hdeclared : declared? (Text.tight s) = declared? (Text.trim s) := by
    have htrim := Text.trimmed_trim s
    rw [← Text.tight_trim, Text.tight_of_stops htrim.stops_isBlank, declared?_squeeze htrim]
  rw [readDeclaration, readDeclaration, Text.trim_tight, hdeclared]
  cases declared? (Text.trim s) <;> rfl

theorem outcome_readObjective_tight (s : Text) :
    outcome (readObjective (Text.tight s)) = outcome (readObjective s) := by
  have hparts : objectiveParts? (Text.tight s) =
      (objectiveParts? (Text.trim s)).map (Prod.map id (Prod.map id Text.tight)) := by
    rw [← Text.tight_trim, Text.tight_of_stops (Text.trimmed_trim s).stops_isBlank,
      objectiveParts?_squeeze]
  rw [readObjective, readObjective, Text.trim_tight, hparts]
  cases objectiveParts? (Text.trim s) with
  | none => rfl
  | some parts =>
    obtain ⟨direction, name, body⟩ := parts
    rcases outcome_eq_iff.1 (outcome_readTerms_tight (Text.tight s) s body) with
      ⟨terms, h, h'⟩ | ⟨fault, fault', h, h', hkind⟩
    · simp only [Option.map_some, Prod.map_apply, id_eq, h, h']
    · simpa only [Option.map_some, Prod.map_apply, id_eq, h, h', outcome_error,
        Except.error.injEq] using hkind

theorem outcome_readConstraint_tight (strict : Bool) (s : Text) :
    outcome (readConstraint strict (Text.tight s)) = outcome (readConstraint strict s) := by
  have hparts : constraintParts? (Text.tight s) =
      (constraintParts? (Text.trim s)).map (Prod.map id Text.tight) := by
    rw [← Text.tight_trim, Text.tight_of_stops (Text.trimmed_trim s).stops_isBlank,
      constraintParts?_squeeze]
  rw [readConstraint, readConstraint, Text.trim_tight, hparts]
  cases constraintParts? (Text.trim s) with
  | none => rfl
  | some parts => exact outcome_readComparison_tight strict _ _ parts.1 parts.2

end Statement

end LinearProgram
