import LinearProgram.Display.Markup
import LinearProgram.Proofs.Text.Run

/-!
# Escaped text

Escaped text is taken apart into text alone, and what is shown of it is the text that has been
escaped, up to backslashes (`Escapes.shownAs`). Backslashes are lost where they stand before a
bracket that begins no tag: they are not escaped there, but one of them vanishes all the same.

This depends on what comes next (`Continues`). A bracket that is left open in the text must not be
closed there, and backslashes at the end of the text must not get a tag behind them.
-/

namespace LinearProgram

namespace Markup

variable {c : Char} {s e x rest content : Text}

/-! ## Tags -/

/-- Characters other than brackets. -/
def inTag (c : Char) : Bool := c != ']' && c != '['

/-- What stands between the brackets of a tag. -/
inductive IsTag : Text → Prop
  | mk {c : Char} {body : Text} : opensTag c = true → (∀ d ∈ body, inTag d = true) →
      IsTag (c :: body)

/-- A tag with its brackets. -/
def bracketed (content : Text) : Text := '[' :: (content ++ [']'])

/-- Backslashes, as many as are asked for. -/
def slashes (k : Nat) : Text := List.replicate k '\\'

theorem inTag_of_opensTag (h : opensTag c = true) : inTag c = true := by
  have hne : c ≠ ']' ∧ c ≠ '[' := by
    constructor <;> rintro rfl <;> exact absurd h (by decide)
  simpa [inTag] using hne

theorem IsTag.forall_inTag (h : IsTag content) : ∀ d ∈ content, inTag d = true := by
  obtain ⟨hc, hbody⟩ := h
  exact List.forall_mem_cons.2 ⟨inTag_of_opensTag hc, hbody⟩

/-- The tag at the beginning of a text. -/
theorem tagAt?_eq_some_iff :
    tagAt? s = some (content, rest) ↔ IsTag content ∧ s = bracketed content ++ rest := by
  constructor
  · intro h
    rw [tagAt?.eq_def] at h
    split at h
    · rename_i c s
      split at h
      · rename_i hc
        split at h
        · rename_i rest' hdrop
          obtain ⟨rfl, rfl⟩ : c :: s.takeWhile inTag = content ∧ rest' = rest :=
            Prod.mk.inj (Option.some.inj h)
          refine ⟨.mk hc fun d => List.mem_takeWhile_imp, ?_⟩
          have hs : s.takeWhile inTag ++ s.dropWhile inTag = s := List.takeWhile_append_dropWhile
          rw [show s.dropWhile inTag = _ from hdrop] at hs
          simpa [bracketed] using hs.symm
        · simp at h
      · simp at h
    · simp at h
  · rintro ⟨⟨hc, hbody⟩, rfl⟩
    rename_i c body
    have hstops : Text.Stops inTag (']' :: rest) := Text.stops_cons rfl rest
    have hdrop : (body ++ ']' :: rest).dropWhile (fun d => d != ']' && d != '[') = ']' :: rest :=
      Text.dropWhile_append_of_stops hbody hstops
    have htake : (body ++ ']' :: rest).takeWhile (fun d => d != ']' && d != '[') = body :=
      Text.takeWhile_append_of_stops hbody hstops
    simp [bracketed, tagAt?, hc, hdrop, htake]

theorem tagAt?_bracketed (h : IsTag content) (rest : Text) :
    tagAt? (bracketed content ++ rest) = some (content, rest) := tagAt?_eq_some_iff.2 ⟨h, rfl⟩

/-! ### Tags after backslashes -/

theorem escapedTagAt?_slash_cons (s : Text) :
    escapedTagAt? ('\\' :: s) = (escapedTagAt? s).map fun (k, tag) => (k + 1, tag) := by
  simp [escapedTagAt?, Function.comp_def]

theorem escapedTagAt?_of_ne (h : s.head? ≠ some '\\') :
    escapedTagAt? s = (tagAt? s).map fun tag => (0, tag) := by
  have hnone : s.takeWhile (· = '\\') = [] := by
    cases s with
    | nil => rfl
    | cons c s => simpa [List.takeWhile_cons] using h
  simp [escapedTagAt?, hnone]

theorem escapedTagAt?_slash_cons_eq_none :
    escapedTagAt? ('\\' :: s) = none ↔ escapedTagAt? s = none := by
  rw [escapedTagAt?_slash_cons, Option.map_eq_none_iff]

/-- What does not begin with a bracket or a backslash begins with no tag. -/
theorem escapedTagAt?_eq_none (hslash : s.head? ≠ some '\\') (hbracket : s.head? ≠ some '[') :
    escapedTagAt? s = none := by
  rw [escapedTagAt?_of_ne hslash, Option.map_eq_none_iff, Option.eq_none_iff_forall_ne_some]
  rintro ⟨content, rest⟩ htag
  obtain ⟨-, rfl⟩ := tagAt?_eq_some_iff.1 htag
  exact hbracket rfl

theorem escapedTagAt?_eq_some_iff {k : Nat} : escapedTagAt? s = some (k, content, rest) ↔
    IsTag content ∧ s = slashes k ++ (bracketed content ++ rest) := by
  constructor
  · intro h
    induction s generalizing k with
    | nil => simp [escapedTagAt?, tagAt?] at h
    | cons c s ih =>
      by_cases hc : c = '\\'
      · subst hc
        rw [escapedTagAt?_slash_cons, Option.map_eq_some_iff] at h
        obtain ⟨⟨j, tag⟩, htag, hk⟩ := h
        obtain ⟨rfl, rfl⟩ : j + 1 = k ∧ tag = (content, rest) := by simpa using hk
        obtain ⟨hcontent, hs⟩ := ih htag
        exact ⟨hcontent, by rw [hs, slashes, slashes, List.replicate_succ, List.cons_append]⟩
      · rw [escapedTagAt?_of_ne (by simpa using hc), Option.map_eq_some_iff] at h
        obtain ⟨tag, htag, hk⟩ := h
        obtain ⟨rfl, rfl⟩ : 0 = k ∧ tag = (content, rest) := by simpa using hk
        simpa [slashes] using tagAt?_eq_some_iff.1 htag
  · rintro ⟨hcontent, rfl⟩
    induction k with
    | zero =>
      rw [slashes, List.replicate_zero, List.nil_append,
        escapedTagAt?_of_ne (by simp [bracketed]), tagAt?_bracketed hcontent, Option.map_some]
    | succ k ih =>
      rw [slashes, List.replicate_succ, List.cons_append, escapedTagAt?_slash_cons, ← slashes, ih,
        Option.map_some]

theorem escapedTagAt?_bracketed (h : IsTag content) (k : Nat) (rest : Text) :
    escapedTagAt? (slashes k ++ (bracketed content ++ rest)) = some (k, content, rest) :=
  escapedTagAt?_eq_some_iff.2 ⟨h, rfl⟩

/-! ## What escaping does -/

/-- How a text is escaped: tags get backslashes, and all else stays as it is. -/
inductive Escapes : Text → Text → Prop
  | nil : Escapes [] []
  | tag {k : Nat} {content s e : Text} : IsTag content → Escapes s e →
      Escapes (slashes k ++ (bracketed content ++ s))
        (slashes (2 * k + 1) ++ (bracketed content ++ e))
  | other {c : Char} {s e : Text} : escapedTagAt? (c :: s) = none → Escapes s e →
      Escapes (c :: s) (c :: e)

theorem escapes_escapeWithin {limit : Nat} (h : s.length ≤ limit) :
    Escapes s (escapeWithin limit s) := by
  induction limit generalizing s with
  | zero =>
    obtain rfl : s = [] := List.eq_nil_of_length_eq_zero (by omega)
    exact .nil
  | succ limit ih =>
    cases s with
    | nil => exact .nil
    | cons c s =>
      rw [escapeWithin]
      split
      · rename_i k content rest htag
        obtain ⟨hcontent, hs⟩ := escapedTagAt?_eq_some_iff.1 htag
        have hlength : rest.length ≤ limit := by
          have := congrArg List.length hs
          simp [bracketed] at this h
          omega
        have := Escapes.tag (k := k) hcontent (ih hlength)
        rw [← hs] at this
        simpa [slashes, bracketed] using this
      · rename_i hnone
        exact .other hnone (ih (by simpa using h))

/-- The bracket that a text has first. -/
def firstBracket? (s : Text) : Option Char := (s.dropWhile inTag).head?

theorem firstBracket?_of_head? (h : s.head? = some '[') : firstBracket? s = some '[' := by
  cases s with
  | nil => simp at h
  | cons c s =>
    obtain rfl : c = '[' := by simpa using h
    rfl

theorem firstBracket?_append_of_forall (h : ∀ c ∈ x, inTag c = true) (y : Text) :
    firstBracket? (x ++ y) = firstBracket? y := by
  rw [firstBracket?, List.dropWhile_append_of_pos h, firstBracket?]

theorem firstBracket?_append (h : firstBracket? x = some c) (y : Text) :
    firstBracket? (x ++ y) = some c := by
  have hne : x.dropWhile inTag ≠ [] := by
    intro hnil
    simp [firstBracket?, hnil] at h
  rw [firstBracket?, List.dropWhile_append, if_neg (by simpa using hne),
    List.head?_append_of_ne_nil _ hne]
  exact h

theorem inTag_of_mem_slashes {k : Nat} : ∀ c ∈ slashes k, inTag c = true := by
  intro c hc
  rw [List.eq_of_mem_replicate hc]
  decide

theorem firstBracket?_slashes_bracketed (k : Nat) (content rest : Text) :
    firstBracket? (slashes k ++ (bracketed content ++ rest)) = some '[' := by
  rw [firstBracket?_append_of_forall inTag_of_mem_slashes]
  rfl

/-- What can follow an escaped text. -/
structure Continues (s rest : Text) : Prop where
  /-- No bracket is closed that has been left open. -/
  closes : firstBracket? rest ≠ some ']'
  /-- No tag follows backslashes. -/
  slash : s.getLast? = some '\\' → escapedTagAt? rest = none

theorem Continues.of_append (h : Continues (x ++ s) rest) : Continues s rest where
  closes := h.closes
  slash hs := h.slash (by simp [List.getLast?_append, hs])

namespace Escapes

theorem firstBracket?_eq (h : Escapes s e) : firstBracket? e = firstBracket? s := by
  induction h with
  | nil => rfl
  | tag => rw [firstBracket?_slashes_bracketed, firstBracket?_slashes_bracketed]
  | @other c s e _ _ ih =>
    cases hc : inTag c with
    | false => simp [firstBracket?, hc]
    | true =>
      have hsingle : ∀ d ∈ [c], inTag d = true := by simpa using hc
      have := ih ▸ firstBracket?_append_of_forall hsingle e
      rwa [← firstBracket?_append_of_forall hsingle s] at this

theorem eq_nil_iff (h : Escapes s e) : e = [] ↔ s = [] := by
  cases h <;> simp [bracketed]

theorem getLast?_eq (h : Escapes s e) : e.getLast? = s.getLast? := by
  induction h with
  | nil => rfl
  | @tag k content s e _ _ ih => simp [bracketed, List.getLast?_append, List.getLast?_cons, ih]
  | other _ _ ih => rw [List.getLast?_cons, List.getLast?_cons, ih]

/-- A bracket that is closed in the escaped text is closed in the text. -/
theorem exists_closed (h : Escapes s e) (hrest : firstBracket? rest ≠ some ']') {x y : Text}
    (hx : ∀ c ∈ x, inTag c = true) (heq : e ++ rest = x ++ ']' :: y) :
    ∃ z, s = x ++ ']' :: z := by
  have hclosed {u v : Text} (hu : ∀ c ∈ u, inTag c = true) :
      firstBracket? (u ++ ']' :: v) = some ']' := firstBracket?_append_of_forall hu _
  induction h generalizing x with
  | nil =>
    rw [List.nil_append] at heq
    exact absurd (heq ▸ hclosed hx) hrest
  | @tag k content s e _ _ _ =>
    have hopen := firstBracket?_append (firstBracket?_slashes_bracketed (2 * k + 1) content e) rest
    rw [heq, hclosed hx] at hopen
    exact absurd hopen (by decide)
  | @other c s e _ _ ih =>
    cases x with
    | nil =>
      obtain ⟨rfl, -⟩ : c = ']' ∧ _ := by simpa using heq
      exact ⟨s, rfl⟩
    | cons d x =>
      obtain ⟨rfl, htail⟩ : c = d ∧ e ++ rest = x ++ ']' :: y := by simpa using heq
      obtain ⟨z, rfl⟩ := ih (fun c hc => hx c (List.mem_cons_of_mem _ hc)) htail
      exact ⟨z, rfl⟩

/-- **Escaping makes no tags.** Where no tag has begun, none begins in the escaped text. -/
theorem escapedTagAt?_append (h : Escapes s e) (hne : s ≠ []) (hnone : escapedTagAt? s = none)
    (hrest : Continues s rest) : escapedTagAt? (e ++ rest) = none := by
  induction h with
  | nil => exact absurd rfl hne
  | tag hcontent _ _ =>
    rw [escapedTagAt?_bracketed hcontent] at hnone
    exact absurd hnone (by simp)
  | @other c s e _ he ih =>
    rw [List.cons_append]
    by_cases hc : c = '\\'
    · subst hc
      rw [escapedTagAt?_slash_cons_eq_none] at hnone ⊢
      by_cases hs : s = []
      · rw [hs] at hrest he
        rw [he.eq_nil_iff.2 rfl]
        exact hrest.slash rfl
      · exact ih hs hnone (hrest.of_append (x := ['\\']))
    · have hhead {t : Text} : (c :: t).head? ≠ some '\\' := by simpa using hc
      rw [escapedTagAt?_of_ne hhead, Option.map_eq_none_iff] at hnone ⊢
      rw [Option.eq_none_iff_forall_ne_some]
      rintro ⟨content, r⟩ htag
      obtain ⟨hcontent, heq⟩ := tagAt?_eq_some_iff.1 htag
      obtain ⟨rfl, htail⟩ : c = '[' ∧ e ++ rest = content ++ ']' :: r := by
        simpa [bracketed] using heq
      obtain ⟨z, rfl⟩ := exists_closed he hrest.closes hcontent.forall_inTag htail
      have htag' := tagAt?_bracketed hcontent z
      simp [bracketed, hnone] at htag'

end Escapes

end Markup

end LinearProgram
