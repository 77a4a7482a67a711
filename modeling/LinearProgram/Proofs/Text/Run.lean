import Mathlib.Data.List.TakeWhile
import LinearProgram.Proofs.Text.Trim
import LinearProgram.Text.Name

/-!
# Runs of characters

The readers tell the parts of a statement apart by the classes of their characters: a part is a run
of one class, and it ends where a character of another class stands.

**Classes exclude each other.** No word character is a blank, and the punctuation of the notation
(`punctuation`) belongs to neither class.

**A run ends in one place only** (`append_inj_of_stops`). When what follows a run does not begin
with a character of its class (`Stops`), both parts can be told from the text that they make up.
-/

namespace LinearProgram

/-! ## Classes -/

/-- The characters that stand between names, literals and blanks. -/
def punctuation : Text := [';', ':', '+', '-', '*', '.', '<', '>', '=', '#']

theorem isWord_of_mem_punctuation : ∀ c ∈ punctuation, isWord c = false :=
  Text.forall_of_any (by decide +kernel)

theorem isBlank_of_mem_punctuation : ∀ c ∈ punctuation, isBlank c = false :=
  Text.forall_of_any (by decide +kernel)

/-- The code points of the blanks, which are few. -/
def blankPoints : List Nat :=
  (whiteSpaceRanges ++ [(0x1C, 0x1F)]).flatMap fun (low, high) =>
    List.range' low (high + 1 - low)

theorem mem_blankPoints_of_isBlank {c : Char} (h : isBlank c = true) : c.toNat ∈ blankPoints := by
  rw [isBlank, Bool.or_eq_true] at h
  rw [blankPoints, List.mem_flatMap]
  rcases h with h | h
  · obtain ⟨range, hmem, hlow, hhigh⟩ := Text.exists_of_inRanges h
    exact ⟨range, List.mem_append_left _ hmem, List.mem_range'_1.2 ⟨hlow, by omega⟩⟩
  · simp only [isSeparator, Bool.and_eq_true, decide_eq_true_eq] at h
    exact ⟨(0x1C, 0x1F), by simp, List.mem_range'_1.2 ⟨h.1, by omega⟩⟩

theorem isWord_of_mem_blankPoints : ∀ n ∈ blankPoints, isWord (Char.ofNat n) = false := by
  decide +kernel

/-- Blanks and word characters exclude each other. -/
theorem isBlank_of_isWord {c : Char} (h : isWord c = true) : isBlank c = false := by
  by_contra hblank
  have hpoint := mem_blankPoints_of_isBlank (by simpa using hblank)
  have := isWord_of_mem_blankPoints _ hpoint
  rw [Char.ofNat_toNat, h] at this
  exact absurd this (by decide)

theorem isWord_of_isBlank {c : Char} (h : isBlank c = true) : isWord c = false := by
  by_contra hword
  rw [isBlank_of_isWord (by simpa using hword)] at h
  exact absurd h (by decide)

theorem isBlank_of_isDigit {c : Char} (h : isDigit c = true) : isBlank c = false :=
  isBlank_of_isWord (isWord_of_isDigit h)

theorem not_mem_punctuation_of_isWord {c : Char} (h : isWord c = true) : c ∉ punctuation :=
  Text.not_mem_of_forall_false h isWord_of_mem_punctuation

theorem not_mem_punctuation_of_isBlank {c : Char} (h : isBlank c = true) : c ∉ punctuation :=
  Text.not_mem_of_forall_false h isBlank_of_mem_punctuation

namespace Text

/-! ## Where a run ends -/

/-- The text does not begin with a character of the class. -/
def Stops (p : Char → Bool) (s : Text) : Prop := ∀ c, s.head? = some c → p c = false

variable {p : Char → Bool} {a b x y : Text}

theorem stops_nil (p : Char → Bool) : Stops p [] := by simp [Stops]

theorem stops_cons {c : Char} (h : p c = false) (x : Text) : Stops p (c :: x) := by
  simpa [Stops] using h

theorem stops_of_forall (h : ∀ c ∈ x, p c = false) : Stops p x := fun c hc =>
  h c (List.mem_of_head? hc)

theorem stops_dropWhile (p : Char → Bool) (x : Text) : Stops p (x.dropWhile p) := fun c hc => by
  have := List.head?_dropWhile_not p x
  rw [hc] at this
  simpa using this

/-- A text begins with a run of the class, as long as one gets. -/
theorem exists_run_append (p : Char → Bool) (x : Text) :
    ∃ run rest, x = run ++ rest ∧ (∀ c ∈ run, p c = true) ∧ Stops p rest :=
  ⟨x.takeWhile p, x.dropWhile p, (List.takeWhile_append_dropWhile).symm,
    fun _ => List.mem_takeWhile_imp, stops_dropWhile p x⟩

theorem stops_trimStart (x : Text) : Stops isBlank (trimStart x) := stops_dropWhile isBlank x

theorem Trimmed.stops_isBlank (h : Trimmed x) : Stops isBlank x := (trimmed_iff.1 h).1

/-- What does not begin with a character of the class still does not with other characters before
it. -/
theorem Stops.append_of_forall (h : Stops p x) (ha : ∀ c ∈ a, p c = false) : Stops p (a ++ x) := by
  cases a with
  | nil => exact h
  | cons c a => exact stops_cons (ha c List.mem_cons_self) _

theorem Stops.append (h : Stops p a) (hne : a ≠ []) (x : Text) : Stops p (a ++ x) := by
  obtain ⟨c, a, rfl⟩ := List.exists_cons_of_ne_nil hne
  exact stops_cons (h c rfl) _

theorem takeWhile_append_of_stops (ha : ∀ c ∈ a, p c = true) (hx : Stops p x) :
    (a ++ x).takeWhile p = a := by
  rw [List.takeWhile_append_of_pos ha]
  cases x with
  | nil => simp
  | cons c x => rw [List.takeWhile_cons_of_neg (by simp [hx c rfl]), List.append_nil]

theorem dropWhile_append_of_stops (ha : ∀ c ∈ a, p c = true) (hx : Stops p x) :
    (a ++ x).dropWhile p = x := by
  rw [List.dropWhile_append_of_pos ha]
  cases x with
  | nil => rfl
  | cons c x => exact List.dropWhile_cons_of_neg (by simp [hx c rfl])

theorem trimStart_of_stops (h : Stops isBlank x) : trimStart x = x :=
  dropWhile_append_of_stops (a := []) (by simp) h

/-- Blanks are removed up to the first character that is none. -/
theorem trimStart_append_of_stops (hy : Stops isBlank y) (x : Text) :
    trimStart (x ++ y) = trimStart x ++ y := by
  rw [trimStart, trimStart, List.dropWhile_append]
  split
  · rename_i hx
    rw [List.isEmpty_iff.1 hx, List.nil_append]
    exact trimStart_of_stops hy
  · rfl

/-- Blanks are removed from the end, down to the last character that is none. -/
theorem trimEnd_append_cons {c : Char} (hc : isBlank c = false) (x y : Text) :
    trimEnd (x ++ c :: y) = x ++ c :: trimEnd y := by
  have hstops : Stops isBlank (c :: x.reverse) := stops_cons hc _
  have hreverse : (x ++ c :: y).reverse = y.reverse ++ c :: x.reverse := by simp
  rw [trimEnd, hreverse, show List.dropWhile isBlank = trimStart from rfl,
    trimStart_append_of_stops hstops]
  simp [trimEnd, trimStart]

/-- What stands on the two sides of a character that is no blank is trimmed at the ends. -/
theorem trim_append_cons {c : Char} (hc : isBlank c = false) (x y : Text) :
    trim (x ++ c :: y) = trimStart x ++ c :: trimEnd y := by
  rw [trim, trimStart_append_of_stops (stops_cons hc y), trimEnd_append_cons hc]

theorem trim_trimStart (x : Text) : trim (trimStart x) = trim x := by
  rw [trim, trimStart_of_stops (stops_trimStart x), trim]

/-- **A run and what follows it** can be told from the text that they make up. -/
theorem append_inj_of_stops (ha : ∀ c ∈ a, p c = true) (hb : ∀ c ∈ b, p c = true)
    (hx : Stops p x) (hy : Stops p y) (h : a ++ x = b ++ y) : a = b ∧ x = y := by
  constructor
  · rw [← takeWhile_append_of_stops ha hx, h, takeWhile_append_of_stops hb hy]
  · rw [← dropWhile_append_of_stops ha hx, h, dropWhile_append_of_stops hb hy]

/-- The first occurrence of a character ends what stands before it. -/
theorem takeWhile_append_cons {c : Char} (h : c ∉ x) (y : Text) :
    (x ++ c :: y).takeWhile (· != c) = x :=
  takeWhile_append_of_stops (fun _ hd => by simpa using ne_of_mem_of_not_mem hd h)
    (stops_cons (by simp) y)

theorem dropWhile_append_cons {c : Char} (h : c ∉ x) (y : Text) :
    (x ++ c :: y).dropWhile (· != c) = c :: y :=
  dropWhile_append_of_stops (fun _ hd => by simpa using ne_of_mem_of_not_mem hd h)
    (stops_cons (by simp) y)

/-- A text that contains a character is what stands before its first occurrence, the character,
and what stands behind. -/
theorem takeWhile_append_cons_drop {c : Char} (h : c ∈ x) :
    x.takeWhile (· != c) ++ c :: (x.dropWhile (· != c)).drop 1 = x := by
  have hx : x.takeWhile (· != c) ++ x.dropWhile (· != c) = x := List.takeWhile_append_dropWhile
  cases hdrop : x.dropWhile (· != c) with
  | nil =>
    have := List.dropWhile_eq_nil_iff.1 hdrop c h
    simp at this
  | cons d rest =>
    obtain rfl : d = c := by simpa using stops_dropWhile (· != c) x d (by rw [hdrop]; rfl)
    rwa [hdrop] at hx

end Text

end LinearProgram
