import LinearProgram.Display.Screen

/-!
# What can be seen on the screen

Filling up tabs and cutting a text into lines changes its blanks only: the signs of a text that can
be seen wherever they stand can be seen in its lines, in the same order (`Screen.filter_lines`).
Texts on lines of their own do not touch each other (`Screen.lines_append_cons`).
-/

namespace LinearProgram

namespace Text

/-- A character that is no separator is the first of its piece. -/
theorem exists_splitOn_cons {c d : Char} (h : c ≠ d) (s : Text) :
    ∃ first rest, (c :: s).splitOn d = (c :: first) :: rest := by
  obtain ⟨first, rest, hs⟩ := List.exists_cons_of_ne_nil (List.splitOn_ne_nil d s)
  refine ⟨first, rest, ?_⟩
  rw [List.splitOn_cons_eq_if_modifyHead, if_neg (by simpa using h), hs, List.modifyHead_cons]

/-- Only separators are left out of the pieces. -/
theorem filter_flatten_splitOn {p : Char → Bool} {d : Char} (h : p d = false) (s : Text) :
    (s.splitOn d).flatten.filter p = s.filter p := by
  induction s with
  | nil => rfl
  | cons c s ih =>
    by_cases hc : c = d
    · rw [List.splitOn_cons_eq_if_modifyHead, if_pos (by simpa using hc), List.flatten_cons,
        List.nil_append, ih, hc, List.filter_cons_of_neg (by simp [h])]
    · obtain ⟨first, rest, hs⟩ := List.exists_cons_of_ne_nil (List.splitOn_ne_nil d s)
      rw [hs, List.flatten_cons] at ih
      rw [List.splitOn_cons_eq_if_modifyHead, if_neg (by simpa using hc), hs, List.modifyHead_cons,
        List.flatten_cons, List.cons_append, List.filter_cons, ih, List.filter_cons]

end Text

namespace Screen

variable {c : Char}

theorem isSilent_of_isVisible (h : isVisible c = true) : isSilent c = false := by
  simp only [isVisible, Bool.and_eq_true, decide_eq_true_eq] at h
  simp only [isSilent, List.contains_eq_mem, decide_eq_false_iff_not, List.mem_cons,
    List.not_mem_nil, or_false]
  omega

theorem filter_joinParts (column : Nat) (parts : List Text) :
    (joinParts column parts).filter isVisible = parts.flatten.filter isVisible := by
  fun_induction joinParts column parts with
  | case1 => rfl
  | case2 => rw [List.flatten_cons, List.flatten_nil, List.append_nil]
  | case3 column part rest hrest spaced reached more ih =>
    have hspace : [' '].filter isVisible = [] := by decide
    have hspaces : (List.replicate more ' ').filter isVisible = [] :=
      List.filter_eq_nil_iff.2 fun c hc => by
        rw [List.eq_of_mem_replicate hc]
        decide
    simp only [spaced, List.filter_append, hspace, hspaces, List.append_nil, ih, List.flatten_cons]

theorem filter_expandTabs (line : Text) :
    (expandTabs line).filter isVisible = line.filter isVisible := by
  rw [expandTabs, filter_joinParts, Text.filter_flatten_splitOn (by decide)]

/-- **What can be seen** of a text can be seen of its lines. -/
theorem filter_lines (s : Text) : (lines s).flatten.filter isVisible = s.filter isVisible := by
  have hexpand (texts : List Text) :
      (texts.map expandTabs).flatten.filter isVisible = texts.flatten.filter isVisible := by
    simp only [List.filter_flatten, List.map_map, Function.comp_def, filter_expandTabs]
  rw [lines, hexpand, Text.filter_flatten_splitOn (by decide), List.filter_filter]
  refine List.filter_congr fun c _ => ?_
  cases hc : isVisible c with
  | false => rw [Bool.false_and]
  | true => rw [isSilent_of_isVisible hc, Bool.true_and, Bool.not_false]

/-- A line break ends a line. -/
theorem lines_append_cons (s t : Text) : lines (s ++ '\n' :: t) = lines s ++ lines t := by
  have hbreak : ('\n' :: t).filter (fun c => !isSilent c) =
      '\n' :: t.filter (fun c => !isSilent c) :=
    List.filter_cons_of_pos (by decide)
  rw [lines, List.filter_append, hbreak, List.splitOn, List.splitOnP_append_cons _ _ (by decide),
    List.map_append]
  rfl

/-- A text that begins with something to see has a first line that is not empty. -/
theorem head?_lines_ne (h : isVisible c = true) (s : Text) : (lines (c :: s)).head? ≠ some [] := by
  have hbreak : c ≠ '\n' := fun hc => absurd (hc ▸ h) (by decide)
  have htab : c ≠ '\t' := fun hc => absurd (hc ▸ h) (by decide)
  obtain ⟨first, rest, hlines⟩ := Text.exists_splitOn_cons hbreak (s.filter fun c => !isSilent c)
  obtain ⟨part, parts, hparts⟩ := Text.exists_splitOn_cons htab first
  have hfirst : expandTabs (c :: first) ≠ [] := by
    rw [expandTabs, hparts]
    cases parts <;> simp [joinParts]
  rw [lines, List.filter_cons_of_pos (by simp [isSilent_of_isVisible h]), hlines, List.map_cons,
    List.head?_cons]
  simpa using hfirst

end Screen

end LinearProgram
