/-!
# Text, and classes of characters given by ranges

A text is the list of its characters (code points). A class of characters that no short rule
describes is a table of closed ranges of code points in increasing order; `Text.inRanges` looks a
code point up in such a table.
-/

namespace LinearProgram

/-- A text: its characters, in order. -/
abbrev Text := List Char

namespace Text

/-- Whether `n` lies in one of the ranges. They are listed upwards, so the search ends at the
first range that starts above `n`. -/
def inRanges : List (Nat × Nat) → Nat → Bool
  | [], _ => false
  | (low, high) :: rest, n =>
    if n < low then false else if n ≤ high then true else inRanges rest n

@[simp] theorem inRanges_nil (n : Nat) : inRanges [] n = false := rfl

/-- A code point that is found lies in one of the listed ranges. -/
theorem exists_of_inRanges {table : List (Nat × Nat)} {n : Nat} (h : inRanges table n = true) :
    ∃ range ∈ table, range.1 ≤ n ∧ n ≤ range.2 := by
  induction table with
  | nil => simp at h
  | cons range rest ih =>
    rw [inRanges] at h
    split at h
    · simp at h
    · split at h
      · exact ⟨range, by simp, by omega, by assumption⟩
      · obtain ⟨found, hmem, hbounds⟩ := ih h
        exact ⟨found, by simp [hmem], hbounds⟩

end Text

end LinearProgram
