import LinearProgram.Display.Emoji
import LinearProgram.Text.Name

/-!
# Texts with emoji codes

The parts of a text make up the text (`Emoji.flatMap_written`), so a text is shown as it is if no
code in it is that of an emoji (`Emoji.replace_eq`). It is enough to count colons to see that no
other text is shown as it is: an emoji has none, and its code has two of them
(`Emoji.ofCode?_eq_none_of_count`).
-/

namespace LinearProgram

namespace Emoji

variable {names : Names} {c : Char} {s : Text} {chunks : List Text}

/-! ## Counting -/

section Counting

variable {α : Type} {f g : α → Text} {list : List α}

theorem count_flatMap_le (h : ∀ a, (f a).count c ≤ (g a).count c) (list : List α) :
    (list.flatMap f).count c ≤ (list.flatMap g).count c := by
  induction list with
  | nil => exact Nat.le_refl 0
  | cons a list ih =>
    rw [List.flatMap_cons, List.flatMap_cons, List.count_append, List.count_append]
    exact Nat.add_le_add (h a) ih

/-- Where nothing is lost of the whole, nothing is lost of any part. -/
theorem count_eq_of_count_flatMap (h : ∀ a, (f a).count c ≤ (g a).count c)
    (hcount : (list.flatMap f).count c = (list.flatMap g).count c) :
    ∀ a ∈ list, (f a).count c = (g a).count c := by
  induction list with
  | nil => simp
  | cons a list ih =>
    rw [List.flatMap_cons, List.flatMap_cons, List.count_append, List.count_append] at hcount
    have hfirst := h a
    have hrest := count_flatMap_le h list
    refine List.forall_mem_cons.2 ⟨by omega, ih (by omega)⟩

end Counting

/-! ## Parts -/

/-- What has been begun, as it is written. -/
def begunText : Option Text → Text
  | none => []
  | some begun => ':' :: begun

theorem flatMap_written_partsFrom (begun : Option Text) (s : Text) :
    (partsFrom begun s).flatMap Part.written = begunText begun ++ s := by
  fun_induction partsFrom begun s with
  | case1 => rfl
  | case2 begun => simp [Part.written, begunText]
  | case3 s ih => simpa [begunText] using ih
  | case4 c s hcolon ih => simpa [begunText, Part.written] using ih
  | case5 begun s ih => simpa [begunText, Part.written] using ih
  | case6 begun c s hcolon hblank ih => simpa [begunText, Part.written] using ih
  | case7 begun c s hcolon hblank ih => simpa [begunText] using ih

/-- The parts of a text make it up. -/
theorem flatMap_written (s : Text) : (parts s).flatMap Part.written = s :=
  flatMap_written_partsFrom none s

/-- What is no colon stays where it is at the beginning of a text. -/
theorem replace_cons (h : c ≠ ':') (names : Names) (s : Text) :
    replace names (c :: s) = c :: replace names s := by
  rw [replace, parts, partsFrom, if_neg h]
  rfl

/-- The same for several texts that are shown one after the other. -/
theorem exists_flatMap_replace_cons (h : chunks.flatten = c :: s) (hc : c ≠ ':') :
    ∃ rest, chunks.flatMap (replace names) = c :: rest := by
  induction chunks with
  | nil => simp at h
  | cons chunk chunks ih =>
    cases chunk with
    | nil => exact ih (by simpa using h)
    | cons d chunk =>
      obtain ⟨rfl, -⟩ : d = c ∧ _ := by simpa using h
      exact ⟨_, by rw [List.flatMap_cons, replace_cons hc, List.cons_append]⟩

/-! ## Shown as written -/

theorem mem_codes {code : Text} : code ∈ codes s ↔ Part.code code ∈ parts s := by
  constructor
  · intro h
    obtain ⟨part, hpart, hcode⟩ := List.mem_filterMap.1 h
    cases part with
    | text => simp [Part.code?] at hcode
    | code content =>
      obtain rfl : content = code := by simpa [Part.code?] using hcode
      exact hpart
  · exact fun h => List.mem_filterMap.2 ⟨_, h, rfl⟩

theorem shown_code_of_none {code : Text} (h : ofCode? names code = none) :
    (Part.code code).shown names = (Part.code code).written := by
  rw [Part.shown, h]
  rfl

/-- **A text without emojis** is shown as it is. -/
theorem replace_eq (h : ∀ code ∈ codes s, ofCode? names code = none) : replace names s = s := by
  have hparts : ∀ part ∈ parts s, part.shown names = part.written := by
    rintro (content | code) hpart
    · rfl
    · exact shown_code_of_none (h code (mem_codes.2 hpart))
  rw [replace, List.flatMap_def, List.map_congr_left hparts, ← List.flatMap_def, flatMap_written]

theorem not_mem_of_ofCode? (hnames : names.Colonless) {code shown : Text}
    (h : ofCode? names code = some shown) : ':' ∉ shown := by
  obtain ⟨emoji, hemoji, rfl⟩ := Option.map_eq_some_iff.1 h
  have hform : ':' ∉ (nameAndForm code).2 := by
    rw [nameAndForm]
    split
    · rename_i ending c hfind
      have hmem : (ending, c) ∈ forms := List.mem_of_find?_eq_some hfind
      have hall : ∀ form ∈ forms, ':' ≠ form.2 := by decide
      simpa using hall _ hmem
    · simp
  exact fun hcolon => (List.mem_append.1 hcolon).elim (hnames _ _ hemoji) hform

/-- An emoji has no colons, and its code has two at least. -/
theorem count_shown_lt (hnames : names.Colonless) {code shown : Text}
    (h : ofCode? names code = some shown) :
    ((Part.code code).shown names).count ':' < (Part.code code).written.count ':' := by
  have hnone : shown.count ':' = 0 := List.count_eq_zero.2 (not_mem_of_ofCode? hnames h)
  rw [Part.shown, h, Option.getD_some, hnone, Part.written, List.count_cons_self]
  omega

theorem count_shown_le (hnames : names.Colonless) (part : Part) :
    (part.shown names).count ':' ≤ part.written.count ':' := by
  cases part with
  | text content => exact Nat.le_refl _
  | code code =>
    cases h : ofCode? names code with
    | none => exact Nat.le_of_eq (congrArg _ (shown_code_of_none h))
    | some shown => exact Nat.le_of_lt (count_shown_lt hnames h)

theorem count_replace_le (hnames : names.Colonless) (s : Text) :
    (replace names s).count ':' ≤ s.count ':' := by
  have := count_flatMap_le (count_shown_le hnames) (parts s)
  rwa [flatMap_written] at this

/-- **Where no colon is lost** there are no emojis. -/
theorem ofCode?_eq_none_of_count (hnames : names.Colonless)
    (h : (replace names s).count ':' = s.count ':') :
    ∀ code ∈ codes s, ofCode? names code = none := by
  intro code hcode
  have hparts : (replace names s).count ':' = ((parts s).flatMap Part.written).count ':' := by
    rw [flatMap_written, h]
  have hpart := count_eq_of_count_flatMap (count_shown_le hnames) hparts _ (mem_codes.1 hcode)
  cases hfound : ofCode? names code with
  | none => rfl
  | some shown => exact absurd hpart (Nat.ne_of_lt (count_shown_lt hnames hfound))

/-- The same for several texts that are shown one after the other. -/
theorem count_flatMap_replace_le (hnames : names.Colonless) (chunks : List Text) :
    (chunks.flatMap (replace names)).count ':' ≤ chunks.flatten.count ':' := by
  rw [← List.flatMap_id]
  exact count_flatMap_le (count_replace_le hnames) chunks

theorem ofCode?_eq_none_of_count_flatMap (hnames : names.Colonless)
    (h : (chunks.flatMap (replace names)).count ':' = chunks.flatten.count ':') :
    ∀ chunk ∈ chunks, ∀ code ∈ codes chunk, ofCode? names code = none := by
  intro chunk hchunk
  rw [← List.flatMap_id] at h
  exact ofCode?_eq_none_of_count hnames
    (count_eq_of_count_flatMap (count_replace_le hnames) h chunk hchunk)

end Emoji

end LinearProgram
