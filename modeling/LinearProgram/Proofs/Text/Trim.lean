import Mathlib.Data.List.DropRight
import Mathlib.Data.List.Infix
import LinearProgram.Text.Blank

/-!
# Trimmed texts

A text is trimmed when it neither begins nor ends with a blank. Trimming gives the one trimmed part
of a text that has nothing but blanks around it (`trim_eq_iff`).
-/

namespace LinearProgram

namespace Text

variable {s t u v : Text}

/-- A class that all characters of a text belong to, as a test of the text. -/
theorem forall_of_all {p : Char → Bool} (h : s.all p = true) : ∀ c ∈ s, p c = true :=
  List.all_eq_true.1 h

/-- A class that no character of a text belongs to, as a test of the text. -/
theorem forall_of_any {p : Char → Bool} (h : s.any p = false) : ∀ c ∈ s, p c = false :=
  fun c hc => by simpa using List.any_eq_false.1 h c hc

/-- A character of a class does not occur where no character belongs to the class. -/
theorem not_mem_of_forall_false {p : Char → Bool} {c : Char} (hc : p c = true)
    (h : ∀ d ∈ s, p d = false) : c ∉ s := fun hmem => by
  rw [h c hmem] at hc
  exact absurd hc (by decide)

/-- A character outside a class does not occur where all characters belong to the class. -/
theorem not_mem_of_forall_true {p : Char → Bool} {c : Char} (hc : p c = false)
    (h : ∀ d ∈ s, p d = true) : c ∉ s := fun hmem => by
  rw [h c hmem] at hc
  exact absurd hc (by decide)

/-- Blanks and nothing else. -/
def Blank (s : Text) : Prop := ∀ c ∈ s, isBlank c = true

/-- A text that neither begins nor ends with a blank. -/
def Trimmed (s : Text) : Prop := trim s = s

theorem Blank.trimStart_append (hs : Blank s) (t : Text) : trimStart (s ++ t) = trimStart t :=
  List.dropWhile_append_of_pos hs

theorem Blank.trimEnd_append (hs : Blank s) (t : Text) : trimEnd (t ++ s) = trimEnd t := by
  have hs' : ∀ c ∈ s.reverse, isBlank c = true := fun c hc => hs c (List.mem_reverse.1 hc)
  rw [trimEnd, List.reverse_append, List.dropWhile_append_of_pos hs', trimEnd]

/-- What trimming removes at the beginning. -/
theorem exists_eq_append_trimStart (s : Text) : ∃ u, Blank u ∧ s = u ++ trimStart s :=
  ⟨s.takeWhile isBlank, fun _ hc => List.mem_takeWhile_imp hc,
    (List.takeWhile_append_dropWhile).symm⟩

/-- What trimming removes at the end. -/
theorem exists_eq_trimEnd_append (s : Text) : ∃ v, Blank v ∧ s = trimEnd s ++ v := by
  obtain ⟨u, hu, h⟩ := exists_eq_append_trimStart s.reverse
  refine ⟨u.reverse, fun c hc => hu c (List.mem_reverse.1 hc), ?_⟩
  have := congrArg List.reverse h
  rwa [List.reverse_reverse, List.reverse_append] at this

/-- A text is its trimmed part with blanks on both sides. -/
theorem exists_eq_append_trim_append (s : Text) :
    ∃ u v, Blank u ∧ Blank v ∧ s = u ++ trim s ++ v := by
  obtain ⟨u, hu, hs⟩ := exists_eq_append_trimStart s
  obtain ⟨v, hv, ht⟩ := exists_eq_trimEnd_append (trimStart s)
  refine ⟨u, v, hu, hv, ?_⟩
  rw [List.append_assoc, trim, ← ht, ← hs]

theorem trim_isInfix (s : Text) : trim s <:+: s := by
  obtain ⟨u, v, -, -, h⟩ := exists_eq_append_trim_append s
  exact ⟨u, v, h.symm⟩

/-- The text neither begins nor ends with a blank exactly when trimming leaves it as it is. -/
theorem trimmed_iff :
    Trimmed s ↔ (∀ c, s.head? = some c → isBlank c = false) ∧
      ∀ c, s.getLast? = some c → isBlank c = false := by
  constructor
  · intro h
    have hstart : trimStart s = s := by
      have hle : (trimEnd (trimStart s)).length ≤ (trimStart s).length :=
        (List.rdropWhile_prefix isBlank (l := trimStart s)).length_le
      have hle' : (trimStart s).length ≤ s.length := (List.dropWhile_suffix isBlank).length_le
      refine (List.dropWhile_suffix isBlank (l := s)).eq_of_length ?_
      rw [show trimEnd (trimStart s) = s from h] at hle
      exact le_antisymm hle' hle
    have hend : trimEnd s = s := by rwa [Trimmed, trim, hstart] at h
    constructor
    · intro c hc
      cases s with
      | nil => simp at hc
      | cons d s =>
        obtain rfl : d = c := by simpa using hc
        by_contra hb
        have := List.dropWhile_eq_self_iff.1 hstart (by simp)
        simp_all
    · intro c hc
      have hne : s ≠ [] := by rintro rfl; simp at hc
      have := List.rdropWhile_eq_self_iff.1 hend hne
      rw [List.getLast?_eq_some_getLast hne, Option.some.injEq] at hc
      simpa [hc] using this
  · rintro ⟨hhead, hlast⟩
    have hstart : trimStart s = s := by
      cases s with
      | nil => rfl
      | cons c s => exact List.dropWhile_cons_of_neg (by simp [hhead c rfl])
    have hend : trimEnd s = s := by
      refine List.rdropWhile_eq_self_iff.2 fun hne => ?_
      simp [hlast _ (List.getLast?_eq_some_getLast hne)]
    rw [Trimmed, trim, hstart, hend]

theorem trimmed_trim (s : Text) : Trimmed (trim s) := by
  refine trimmed_iff.2 ⟨fun c hc => ?_, fun c hc => ?_⟩
  · -- The first character is the one at which the leading blanks end.
    obtain ⟨v, -, hv⟩ := exists_eq_trimEnd_append (trimStart s)
    have hhead : (trimStart s).head? = some c := by
      rw [hv, List.head?_append, show trimEnd (trimStart s) = trim s from rfl, hc, Option.some_or]
    have := List.head?_dropWhile_not isBlank s
    rw [show s.dropWhile isBlank = trimStart s from rfl, hhead] at this
    simpa using this
  · have hne : trim s ≠ [] := by rintro h; simp [h] at hc
    have := List.rdropWhile_last_not isBlank (trimStart s) hne
    rw [List.getLast?_eq_some_getLast hne, Option.some.injEq] at hc
    rw [← hc]
    exact Bool.eq_false_iff.2 this

/-- **Trimming finds the trimmed part.** -/
theorem trim_eq_iff :
    trim s = t ↔ Trimmed t ∧ ∃ u v, Blank u ∧ Blank v ∧ s = u ++ t ++ v := by
  constructor
  · rintro rfl
    exact ⟨trimmed_trim s, exists_eq_append_trim_append s⟩
  · rintro ⟨ht, u, v, hu, hv, rfl⟩
    by_cases hne : t = []
    · subst hne
      have hblank : trimStart v = [] := List.dropWhile_eq_nil_iff.2 hv
      rw [List.append_nil, trim, hu.trimStart_append, hblank]
      rfl
    · have hstart : trimStart t = t := by
        obtain ⟨c, t, rfl⟩ := List.exists_cons_of_ne_nil hne
        exact List.dropWhile_cons_of_neg (by simp [(trimmed_iff.1 ht).1 c rfl])
      have hmiddle : trimStart (t ++ v) = t ++ v := by
        obtain ⟨c, t, rfl⟩ := List.exists_cons_of_ne_nil hne
        exact List.dropWhile_cons_of_neg (by simp [(trimmed_iff.1 ht).1 c rfl])
      rw [List.append_assoc, trim, hu.trimStart_append, hmiddle, hv.trimEnd_append]
      rwa [Trimmed, trim, hstart] at ht

/-! ## What stands around a trimmed text -/

variable {a b x : Text}

theorem blank_nil : Blank [] := by simp [Blank]

theorem Blank.append (ha : Blank a) (hb : Blank b) : Blank (a ++ b) := by
  intro c hc
  rcases List.mem_append.1 hc with hc | hc
  · exact ha c hc
  · exact hb c hc

/-- Blanks behind a text do not change what trimming leaves of it. -/
theorem trim_append_of_blank (hb : Blank b) (x : Text) : trim (x ++ b) = trim x := by
  obtain ⟨u, v, hu, hv, hx⟩ := exists_eq_append_trim_append x
  refine trim_eq_iff.2 ⟨trimmed_trim x, u, v ++ b, hu, hv.append hb, ?_⟩
  rw [← List.append_assoc, ← hx]

/-- A trimmed text is what remains when the blanks around it are removed. -/
theorem Trimmed.trim_append (h : Trimmed x) (ha : Blank a) (hb : Blank b) :
    trim (a ++ x ++ b) = x :=
  trim_eq_iff.2 ⟨h, a, b, ha, hb, rfl⟩

theorem Trimmed.trim_append_left (h : Trimmed x) (ha : Blank a) : trim (a ++ x) = x := by
  simpa using h.trim_append ha blank_nil

theorem Trimmed.trim_append_right (h : Trimmed x) (hb : Blank b) : trim (x ++ b) = x := by
  rw [trim_append_of_blank hb, h]

/-- A text without blanks is trimmed. -/
theorem trimmed_of_no_blank (h : ∀ c ∈ x, isBlank c = false) : Trimmed x :=
  trimmed_iff.2 ⟨fun c hc => h c (List.mem_of_head? hc),
    fun c hc => h c (List.mem_of_getLast? hc)⟩

theorem trimmed_of_any_isBlank (h : x.any isBlank = false) : Trimmed x :=
  trimmed_of_no_blank (forall_of_any h)

/-- Whatever stands between two trimmed texts, the whole is trimmed. -/
theorem Trimmed.append (ha : Trimmed a) (hane : a ≠ []) (hb : Trimmed b) (hbne : b ≠ [])
    (x : Text) : Trimmed (a ++ x ++ b) := by
  refine trimmed_iff.2 ⟨fun c hc => (trimmed_iff.1 ha).1 c ?_,
    fun c hc => (trimmed_iff.1 hb).2 c ?_⟩
  · rwa [List.append_assoc, List.head?_append_of_ne_nil _ hane] at hc
  · rwa [List.getLast?_append_of_ne_nil _ hbne] at hc

theorem Blank.trim_eq_nil (h : Blank x) : trim x = [] := trim_append_of_blank h []

theorem blank_of_trim_eq_nil (h : trim x = []) : Blank x := by
  obtain ⟨u, v, hu, hv, hx⟩ := exists_eq_append_trim_append x
  rw [hx, h, List.append_nil]
  exact hu.append hv

/-- A trimmed text does not end with blanks. -/
theorem Trimmed.eq_nil_of_blank (h : Trimmed (x ++ b)) (hb : Blank b) : b = [] := by
  by_contra hne
  obtain ⟨c, hc⟩ := Option.isSome_iff_exists.1 (List.getLast?_isSome.2 hne)
  have hlast := (trimmed_iff.1 h).2 c (by rw [List.getLast?_append_of_ne_nil _ hne, hc])
  rw [hb c (List.mem_of_getLast? hc)] at hlast
  exact absurd hlast (by decide)

/-- Trimming leaves the beginning of a text alone that neither begins nor ends with a blank, and
takes no more than blanks from the end. -/
theorem exists_trim_append (ha : Blank a) (hb : Trimmed b) (hne : b ≠ []) (x : Text) :
    ∃ y z, Blank z ∧ x = y ++ z ∧ trim (a ++ (b ++ x)) = b ++ y := by
  obtain ⟨u, v, hu, hv, hx⟩ := exists_eq_append_trim_append x
  by_cases hnil : trim x = []
  · refine ⟨[], x, blank_of_trim_eq_nil hnil, rfl, ?_⟩
    rw [← List.append_assoc, hb.trim_append ha (blank_of_trim_eq_nil hnil), List.append_nil]
  · refine ⟨u ++ trim x, v, hv, hx, ?_⟩
    have hmiddle := (hb.append hne (trimmed_trim x) hnil u).trim_append ha hv
    rwa [List.append_assoc b, List.append_assoc, List.append_assoc, ← hx] at hmiddle

end Text

end LinearProgram
