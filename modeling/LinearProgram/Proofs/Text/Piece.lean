import Mathlib.Data.List.Infix
import LinearProgram.Proofs.Text.Trim
import LinearProgram.Text.Name

/-!
# Parts of texts

The readers take a text apart at characters, keywords and blanks. Whatever they take is a part of
the text: a run of characters that stand next to each other in it, and what they leave for the
next reader is an end of it.
-/

namespace LinearProgram

namespace Text

variable {s rest : Text}

/-- A piece between two separators. -/
theorem infix_of_mem_splitOn {piece : Text} {c : Char} (h : piece ∈ s.splitOn c) :
    piece <:+: s := by
  have hmem : piece ∈ (s.splitOn c).intersperse [c] := by
    obtain ⟨i, hi⟩ := List.getElem?_of_mem h
    exact List.mem_of_getElem? (List.getElem?_intersperse_two_mul.trans hi)
  have := List.infix_of_mem_flatten hmem
  rwa [show ((s.splitOn c).intersperse [c]).flatten = [c].intercalate (s.splitOn c) from rfl,
    List.intercalate_splitOn] at this

/-- A separator splits a text wherever it stands. -/
theorem splitOn_append_cons (c : Char) (s t : Text) :
    (s ++ c :: t).splitOn c = s.splitOn c ++ t.splitOn c :=
  List.splitOnP_append_cons s t (beq_self_eq_true c)

/-- A text is taken apart at a separator, one piece after the other. -/
theorem separator_induction {c : Char} {P : Text → Prop} (last : ∀ s, c ∉ s → P s)
    (cut : ∀ first rest, c ∉ first → P rest → P (first ++ c :: rest)) (s : Text) : P s := by
  induction hn : s.length using Nat.strong_induction_on generalizing s with
  | _ n ih =>
    by_cases hmem : c ∈ s
    · obtain ⟨first, rest, rfl, hfirst⟩ := List.eq_append_cons_of_mem hmem
      have hlt : rest.length < n := by
        rw [← hn, List.length_append, List.length_cons]
        omega
      exact cut first rest hfirst (ih _ hlt rest rfl)
    · exact last s hmem

/-- No separator stands within a piece. -/
theorem not_mem_of_mem_splitOn {piece : Text} {c : Char} (h : piece ∈ s.splitOn c) :
    c ∉ piece := by
  induction s using separator_induction (c := c) with
  | last s hmem =>
    rw [List.splitOn_eq_singleton hmem, List.mem_singleton] at h
    rwa [h]
  | cut first rest hfirst ih =>
    rw [splitOn_append_cons, List.splitOn_eq_singleton hfirst, List.mem_append,
      List.mem_singleton] at h
    rcases h with rfl | h
    · exact hfirst
    · exact ih h

theorem trimStart_suffix (s : Text) : trimStart s <:+ s := List.dropWhile_suffix isBlank

theorem suffix_of_afterPrefix? {p : Text} (h : afterPrefix? p s = some rest) : rest <:+ s :=
  ⟨p, (afterPrefix?_eq_some_iff.1 h).symm⟩

theorem suffix_of_afterBlanks? (h : afterBlanks? s = some rest) : rest <:+ s := by
  cases s with
  | nil => simp [afterBlanks?] at h
  | cons c s =>
    simp only [afterBlanks?] at h
    split at h
    · obtain rfl : trimStart s = rest := by simpa using h
      exact (trimStart_suffix s).trans (List.suffix_cons c s)
    · simp at h

theorem suffix_of_leadingName? {name : Text} (h : leadingName? s = some (name, rest)) :
    rest <:+ s :=
  ⟨name, (leadingName?_eq_append h).1.symm⟩

end Text

end LinearProgram
