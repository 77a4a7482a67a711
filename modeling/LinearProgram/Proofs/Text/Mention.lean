import LinearProgram.Proofs.Text.Run

/-!
# Words in texts

A text mentions a word when the characters of the word stand next to each other in it
(`mentions_iff`). Where a text is put together from parts, a word that it mentions is mentioned in
one of them, unless it lies across a border.

**Borders that no word lies across.** A character that the word does not have
(`infix_append_cons_iff`), and a run of characters of which the word has none
(`infix_append_run_iff`). Characters that a word does not begin or end with can be taken off the
ends of the text (`infix_run_append_iff`, `infix_append_iff_of_last`).

**A word with a blank** lies across a gap of the text only where the gap is that blank
(`infix_gap_iff`).
-/

namespace LinearProgram

namespace Text

variable {w s a b g x : Text} {p : Char → Bool}

theorem mentions_iff : mentions w s = true ↔ w <:+: s := by
  induction s with
  | nil => simp [mentions]
  | cons c s ih =>
    rw [mentions, Bool.or_eq_true, List.isPrefixOf_iff_prefix, ih, List.infix_cons_iff]

/-- A word has no beginning among characters that it does not begin with. -/
theorem eq_nil_of_stops {l r : Text} (ha : ∀ c ∈ a, p c = true) (hw : Stops p (l ++ r))
    (hl : l <:+: a) : l = [] := by
  cases l with
  | nil => rfl
  | cons c l =>
    have hc : c ∈ a := hl.subset List.mem_cons_self
    exact absurd hc (not_mem_of_forall_true (hw c rfl) ha)

/-- Characters that the word does not begin with do not matter at the beginning of a text. -/
theorem infix_run_append_iff (ha : ∀ c ∈ a, p c = true) (hne : w ≠ []) (hw : Stops p w) (x : Text) :
    w <:+: a ++ x ↔ w <:+: x := by
  constructor
  · intro h
    rcases List.infix_append_iff.1 h with h | h | ⟨l, r, rfl, hl, hr⟩
    · exact absurd (eq_nil_of_stops (r := []) ha (by simpa using hw) h) hne
    · exact h
    · obtain rfl := eq_nil_of_stops ha hw hl.isInfix
      exact hr.isInfix
  · exact List.infix_append_of_infix_right

/-- Characters that the word does not end with do not matter at the end of a text. -/
theorem infix_append_iff_of_last (ha : ∀ c ∈ a, p c = true) (hne : w ≠ [])
    (hw : Stops p w.reverse) (x : Text) : w <:+: x ++ a ↔ w <:+: x := by
  rw [← List.reverse_infix, List.reverse_append,
    infix_run_append_iff (fun c hc => ha c (List.mem_reverse.1 hc)) (by simpa using hne) hw,
    List.reverse_infix]

/-- No word lies across a character that it does not have. -/
theorem infix_append_cons_iff {c : Char} (hc : c ∉ w) :
    w <:+: a ++ c :: b ↔ w <:+: a ∨ w <:+: b := by
  constructor
  · intro h
    rcases List.infix_append_iff.1 h with h | h | ⟨l, r, rfl, hl, hr⟩
    · exact Or.inl h
    · rcases List.infix_cons_iff.1 h with h | h
      · rcases List.prefix_cons_iff.1 h with rfl | ⟨r, rfl, -⟩
        · exact Or.inl List.nil_infix
        · exact absurd List.mem_cons_self hc
      · exact Or.inr h
    · rcases List.prefix_cons_iff.1 hr with rfl | ⟨r, rfl, -⟩
      · rw [List.append_nil]
        exact Or.inl hl.isInfix
      · exact absurd (by simp) hc
  · rintro (h | h)
    · exact List.infix_append_of_infix_left h
    · exact List.infix_append_of_infix_right (List.infix_cons h)

/-- No word lies across a run of characters of which it has none. -/
theorem infix_append_run_iff (hg : ∀ c ∈ g, p c = true) (hgne : g ≠ []) (hne : w ≠ [])
    (hw : ∀ c ∈ w, p c = false) : w <:+: a ++ (g ++ x) ↔ w <:+: a ∨ w <:+: x := by
  obtain ⟨c, g, rfl⟩ := List.exists_cons_of_ne_nil hgne
  have hc : c ∉ w := not_mem_of_forall_false (hg c List.mem_cons_self) hw
  rw [List.cons_append, infix_append_cons_iff hc, infix_run_append_iff
    (fun d hd => hg d (List.mem_cons_of_mem c hd)) hne (stops_of_forall hw)]

/-- A word is mentioned in pieces with a separator between them exactly when it is mentioned in one
of the pieces. -/
theorem infix_intercalate_iff {c : Char} (hc : c ∉ w) (hne : w ≠ []) (pieces : List Text) :
    w <:+: [c].intercalate pieces ↔ ∃ piece ∈ pieces, w <:+: piece := by
  induction pieces with
  | nil => simp [hne]
  | cons piece pieces ih =>
    cases pieces with
    | nil => simp
    | cons next pieces =>
      rw [List.intercalate_cons_cons, List.append_assoc, List.singleton_append,
        infix_append_cons_iff hc, ih]
      simp

/-- Where two words with one blank between them lie across a gap, the gap is that blank. -/
theorem infix_gap_iff {u v : Text} {blank : Char} (hblank : isBlank blank = true) (hu : u ≠ [])
    (huBlank : ∀ c ∈ u, isBlank c = false) (hv : v ≠ []) (hvBlank : ∀ c ∈ v, isBlank c = false)
    (hg : g ≠ []) (hgBlank : Blank g) (hx : Stops isBlank x) :
    u ++ blank :: v <:+: a ++ (g ++ x) ↔ u ++ blank :: v <:+: a ∨
      (u <:+ a ∧ g = [blank] ∧ v <+: x) ∨ u ++ blank :: v <:+: x := by
  constructor
  · intro h
    rcases List.infix_append_iff.1 h with h | h | ⟨l, r, heq, hl, ⟨r', hr⟩⟩
    · exact Or.inl h
    · have hstops : Stops isBlank (u ++ blank :: v) := (stops_of_forall huBlank).append hu _
      exact Or.inr (Or.inr ((infix_run_append_iff hgBlank (by simp) hstops x).1 h))
    · cases r with
      | nil =>
        rw [heq, List.append_nil]
        exact Or.inl hl.isInfix
      | cons c r =>
        -- From the gap on, the word begins with a blank, and it has only the one.
        have hc : isBlank c = true := by
          obtain ⟨d, g, rfl⟩ := List.exists_cons_of_ne_nil hg
          obtain rfl : c = d := (List.cons.inj hr).1
          exact hgBlank c List.mem_cons_self
        obtain ⟨rfl, hrest⟩ : l = u ∧ c :: r = blank :: v := by
          rcases List.append_eq_append_iff.1 heq with ⟨m, rfl, hm⟩ | ⟨m, rfl, hm⟩
          · cases m with
            | nil => exact ⟨by simp, hm.symm⟩
            | cons d m =>
              have hv' : v = m ++ c :: r := (List.cons.inj hm).2
              exact absurd (show c ∈ v by simp [hv']) (not_mem_of_forall_false hc hvBlank)
          · cases m with
            | nil => exact ⟨by simp, hm⟩
            | cons d m =>
              obtain rfl : c = d := (List.cons.inj hm).1
              exact absurd (show c ∈ l ++ c :: m by simp) (not_mem_of_forall_false hc huBlank)
        rw [hrest] at hr
        obtain ⟨hgap, hbehind⟩ := append_inj_of_stops (a := [blank]) (by simpa using hblank) hgBlank
          ((stops_of_forall hvBlank).append hv r') hx hr
        exact Or.inr (Or.inl ⟨hl, hgap.symm, ⟨r', hbehind⟩⟩)
  · rintro (h | ⟨⟨l, rfl⟩, rfl, ⟨r, rfl⟩⟩ | h)
    · exact List.infix_append_of_infix_left h
    · exact ⟨l, r, by simp⟩
    · exact List.infix_append_of_infix_right (List.infix_append_of_infix_right h)

end Text

end LinearProgram
