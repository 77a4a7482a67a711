import LinearProgram.Proofs.Display.Emoji
import LinearProgram.Proofs.Display.Escape

/-!
# Pieces of text with markup

What is rendered of a text depends on its pieces in two ways: their tags have to be usable one after
the other (`Usable`), and then their texts are shown with their emojis (`render_of_usable`,
`eq_of_render`). It matters for emojis only which texts are one; tags and characters are the same
before texts are joined and after (`tagContents_foldr_before`, `flatten_textContents_foldr_before`).
-/

namespace LinearProgram

namespace Markup

variable {emojis : Emoji.Names} {c : Char} {s t rest content : Text} {limit position : Nat}
variable {list : List Piece}

/-! ## One piece after the other -/

theorem piecesWithin_other (h : escapedTagAt? (c :: s) = none) :
    piecesWithin (limit + 1) position (c :: s) =
      .text (if c = '\\' && s.head? = some '[' then [] else [c]) true ::
        piecesWithin limit (position + 1) s := by
  rw [piecesWithin, h]

theorem piecesWithin_bracketed (h : IsTag content) (k : Nat) (rest : Text) :
    piecesWithin (limit + 1) position (slashes k ++ (bracketed content ++ rest)) =
      .text (slashes (k / 2)) false ::
        (if k % 2 = 1 then .text (bracketed content) false else .tag content (position + k)) ::
          piecesWithin limit (position + k + content.length + 2) rest := by
  have htag := escapedTagAt?_bracketed h k rest
  generalize slashes k ++ (bracketed content ++ rest) = s at htag
  cases s with
  | nil => simp [escapedTagAt?, tagAt?] at htag
  | cons c s => simp [piecesWithin, htag, slashes, bracketed]

theorem piecesWithin_tag (h : IsTag content) (rest : Text) :
    piecesWithin (limit + 1) position (bracketed content ++ rest) =
      .text [] false :: .tag content position ::
        piecesWithin limit (position + content.length + 2) rest := by
  simpa [slashes] using piecesWithin_bracketed h 0 rest

@[simp] theorem piecesWithin_nil (limit position : Nat) : piecesWithin limit position [] = [] := by
  cases limit <;> rfl

/-! ## Tags and texts -/

/-- The tags among pieces. -/
def tagContents (pieces : List Piece) : List Text :=
  pieces.filterMap fun
    | .text _ _ => none
    | .tag content _ => some content

/-- The texts among pieces. -/
def textContents (pieces : List Piece) : List Text :=
  pieces.filterMap fun
    | .text content _ => some content
    | .tag _ _ => none

@[simp] theorem tagContents_append (list list' : List Piece) :
    tagContents (list ++ list') = tagContents list ++ tagContents list' := List.filterMap_append

@[simp] theorem textContents_append (list list' : List Piece) :
    textContents (list ++ list') = textContents list ++ textContents list' :=
  List.filterMap_append

theorem tagContents_before (piece : Piece) (list : List Piece) :
    tagContents (piece.before list) = tagContents (piece :: list) := by
  fun_cases Piece.before piece list <;> rfl

theorem flatten_textContents_before (piece : Piece) (list : List Piece) :
    (textContents (piece.before list)).flatten = (textContents (piece :: list)).flatten := by
  fun_cases Piece.before piece list with
  | case1 => simp [textContents]
  | case2 => rfl

/-- Joining texts does not change the tags. -/
theorem tagContents_foldr_before (list : List Piece) :
    tagContents (list.foldr Piece.before []) = tagContents list := by
  induction list with
  | nil => rfl
  | cons piece list ih =>
    rw [List.foldr_cons, tagContents_before]
    exact (tagContents_append [piece] _).trans (ih ▸ (tagContents_append [piece] list).symm)

/-- Joining texts does not change what they are together. -/
theorem flatten_textContents_foldr_before (list : List Piece) :
    (textContents (list.foldr Piece.before [])).flatten = (textContents list).flatten := by
  induction list with
  | nil => rfl
  | cons piece list ih =>
    rw [List.foldr_cons, flatten_textContents_before, ← List.singleton_append,
      textContents_append, List.flatten_append, ih, ← List.flatten_append, ← textContents_append,
      List.singleton_append]

/-- Single characters of which none is marked up. -/
def singles (s : Text) : List Piece := s.map fun c => .text [c] true

@[simp] theorem tagContents_singles (s : Text) : tagContents (singles s) = [] := by
  simp [tagContents, singles]

@[simp] theorem flatten_textContents_singles (s : Text) :
    (textContents (singles s)).flatten = s := by
  simp [textContents, singles, ← List.flatMap_def]

/-- Characters next to each other become one text, up to a piece that does not join them. -/
theorem foldr_before_singles (hs : s ≠ []) (h : ∀ content rest, list ≠ .text content true :: rest) :
    (singles s).foldr Piece.before list = .text s true :: list := by
  induction s with
  | nil => exact absurd rfl hs
  | cons c s ih =>
    rw [singles, List.map_cons, List.foldr_cons, ← singles]
    by_cases hnil : s = []
    · subst hnil
      rw [singles, List.map_nil, List.foldr_nil]
      fun_cases Piece.before (.text [c] true) list with
      | case1 content more => exact absurd rfl (h _ _)
      | case2 => rfl
    · rw [ih hnil]
      rfl

/-! ## Rendering -/

/-- Tags of which each can stand after those before it, while no style has an empty part. -/
inductive Usable : List Tag → List Text → Prop
  | done {tags : List Tag} : (∀ tag ∈ tags, tag.hasEmptyPart = false) → Usable tags []
  | next {tags tags' : List Tag} {content : Text} {contents : List Text} :
      (∀ tag ∈ tags, tag.hasEmptyPart = false) →
      (∀ position, tagsAfter tags content position = .ok tags') → Usable tags' contents →
      Usable tags (content :: contents)

theorem Usable.forall_hasEmptyPart {tags : List Tag} {contents : List Text}
    (h : Usable tags contents) : ∀ tag ∈ tags, tag.hasEmptyPart = false := by
  cases h with
  | done hempty => exact hempty
  | next hempty _ _ => exact hempty

theorem Usable.exists_stretches {tags : List Tag} (emojis : Emoji.Names)
    (h : Usable tags (tagContents list)) :
    ∃ found, stretches emojis tags list = .ok found ∧
      found.any Stretch.hasEmptyPart = false := by
  induction list generalizing tags with
  | nil => exact ⟨[], rfl, rfl⟩
  | cons piece list ih =>
    cases piece with
    | text content joins =>
      obtain ⟨found, hfound, hempty⟩ := ih h
      refine ⟨⟨Emoji.replace emojis content, tags⟩ :: found, by simp only [stretches, hfound], ?_⟩
      have htags : tags.any Tag.hasEmptyPart = false := by simpa using h.forall_hasEmptyPart
      simp only [List.any_cons, hempty, Stretch.hasEmptyPart, htags, Bool.and_false, Bool.or_false]
    | tag content position =>
      cases h with
      | next _ hafter hnext =>
        obtain ⟨found, hfound, hempty⟩ := ih hnext
        exact ⟨found, by simp only [stretches, hafter, hfound], hempty⟩

theorem flatMap_content_of_stretches {tags : List Tag} {found : List Stretch}
    (h : stretches emojis tags list = .ok found) :
    found.flatMap (·.content) = (textContents list).flatMap (Emoji.replace emojis) := by
  induction list generalizing tags found with
  | nil =>
    obtain rfl : [] = found := by simpa [stretches] using h
    rfl
  | cons piece list ih =>
    cases piece with
    | text content joins =>
      rw [stretches] at h
      split at h
      · rename_i rest hrest
        obtain rfl := Except.ok.inj h
        exact congrArg (Emoji.replace emojis content ++ ·) (ih hrest)
      · simp at h
    | tag content position =>
      rw [stretches] at h
      split at h
      · exact ih h
      · simp at h

/-- **A text with tags that can be used** is rendered. -/
theorem render_of_usable (emojis : Emoji.Names) (h : Usable [] (tagContents (pieces s))) :
    render emojis s = .ok ((textContents (pieces s)).flatMap (Emoji.replace emojis)) := by
  obtain ⟨found, hfound, hempty⟩ := h.exists_stretches emojis
  simp only [render, hfound, hempty, flatMap_content_of_stretches hfound, Bool.false_eq_true,
    if_false]

/-- What is rendered of a text is what its pieces say. -/
theorem eq_of_render (h : render emojis s = .ok t) :
    t = (textContents (pieces s)).flatMap (Emoji.replace emojis) := by
  rw [render] at h
  split at h
  · simp at h
  · rename_i found hfound
    split at h
    · simp at h
    · rw [flatMap_content_of_stretches hfound, Except.ok.injEq] at h
      exact h.symm

/-! ## The style of errors -/

/-- The tag that begins the style of errors. -/
def redTag : Tag := ⟨"red".toList, none⟩

theorem isTag_red : IsTag "red".toList := .mk (by decide) (Text.forall_of_all (by decide))

theorem isTag_endRed : IsTag "/red".toList := .mk (by decide) (Text.forall_of_all (by decide))

theorem tagsAfter_red (position : Nat) : tagsAfter [] "red".toList position = .ok [redTag] := by
  have hcontent : "red".toList.takeWhile (· != '=') = 'r' :: "ed".toList := by decide
  have htag : Tag.ofContent "red".toList = .ok redTag := by decide +kernel
  simp only [tagsAfter, hcontent, htag]
  rfl

theorem tagsAfter_endRed (position : Nat) : tagsAfter [redTag] "/red".toList position = .ok [] := by
  have hcontent : "/red".toList.takeWhile (· != '=') = '/' :: "red".toList := by decide
  have hblank : (Text.trim "red".toList).isEmpty = false := by decide +kernel
  have hname : Style.normalName? "red".toList = some "red".toList := by decide +kernel
  have hfind : [redTag].find? (·.name == "red".toList) = some redTag := by decide
  have hclose : closeTag [redTag] redTag = .ok [] := by decide
  simp only [tagsAfter, hcontent, hblank, hname, hfind, hclose, Bool.false_eq_true, if_false]

theorem hasEmptyPart_redTag : redTag.hasEmptyPart = false := by decide +kernel

/-- The style of errors can be begun and ended. -/
theorem usable_red : Usable [] ["red".toList, "/red".toList] := by
  refine .next (by simp) tagsAfter_red (.next ?_ tagsAfter_endRed (.done (by simp)))
  simpa using hasEmptyPart_redTag

end Markup

end LinearProgram
