import LinearProgram.Proofs.Display.Piece

/-!
# What is shown of escaped text

Text with markup is taken apart into pieces from its beginning on. A stretch of it of which only
text is shown (`ShownAs`) leaves the pieces that follow as they are, so such stretches can be put
together. Escaped text is one of them (`shownAs_escape`).

In the style of errors a stretch like that is rendered without a fault (`render_red`). Emojis are
shown in it all the same: escaping a text does nothing to its codes.
-/

namespace LinearProgram

namespace Markup

variable {c : Char} {s e x y shown rest content : Text} {limit position : Nat}

/-! ## Stretches of text -/

/-- A text without its backslashes. -/
def unslashed (s : Text) : Text := s.filter (· != '\\')

@[simp] theorem unslashed_append (x y : Text) :
    unslashed (x ++ y) = unslashed x ++ unslashed y := List.filter_append x y

@[simp] theorem unslashed_slashes (k : Nat) : unslashed (slashes k) = [] := by
  simp [unslashed, slashes]

/-- Before `rest`, only text is made of `x`, and up to backslashes it is `shown`. -/
def ShownAs (x rest shown : Text) : Prop :=
  ∀ limit position : Nat, (x ++ rest).length ≤ limit →
    ∃ (limit' position' : Nat) (list : List Piece), rest.length ≤ limit' ∧
      piecesWithin limit position (x ++ rest) = list ++ piecesWithin limit' position' rest ∧
      tagContents list = [] ∧ unslashed (textContents list).flatten = unslashed shown

theorem shownAs_nil (rest : Text) : ShownAs [] rest [] := by
  intro limit position hlimit
  exact ⟨limit, position, [], hlimit, rfl, rfl, rfl⟩

theorem ShownAs.append {shown' : Text} (hx : ShownAs x (y ++ rest) shown)
    (hy : ShownAs y rest shown') : ShownAs (x ++ y) rest (shown ++ shown') := by
  intro limit position hlimit
  rw [List.append_assoc] at hlimit ⊢
  obtain ⟨middle, position', list, hmiddle, hpieces, htags, hshown⟩ := hx limit position hlimit
  obtain ⟨limit', position'', list', hlimit', hpieces', htags', hshown'⟩ :=
    hy middle position' hmiddle
  refine ⟨limit', position'', list ++ list', hlimit', ?_, ?_, ?_⟩
  · rw [hpieces, hpieces', List.append_assoc]
  · rw [tagContents_append, htags, htags', List.append_nil]
  · rw [textContents_append, List.flatten_append, unslashed_append, unslashed_append, hshown,
      hshown']

/-- A character at which no tag begins. -/
theorem shownAs_singleton (h : escapedTagAt? (c :: rest) = none) : ShownAs [c] rest [c] := by
  intro limit position hlimit
  cases limit with
  | zero => simp at hlimit
  | succ limit =>
    refine ⟨limit, position + 1, [_], by simpa using hlimit, piecesWithin_other h, rfl, ?_⟩
    split
    · rename_i hslash
      obtain ⟨rfl, -⟩ : c = '\\' ∧ _ := by simpa using hslash
      rfl
    · simp [textContents]

/-- A tag behind backslashes of odd number. -/
theorem shownAs_bracketed (h : IsTag content) (k : Nat) (rest : Text) :
    ShownAs (slashes (2 * k + 1) ++ bracketed content) rest (slashes k ++ bracketed content) := by
  intro limit position hlimit
  rw [List.append_assoc] at hlimit ⊢
  have hlength : (slashes (2 * k + 1) ++ (bracketed content ++ rest)).length =
      (2 * k + 1) + (content.length + 2 + rest.length) := by
    simp [slashes, bracketed]
    omega
  cases limit with
  | zero => omega
  | succ limit =>
    rw [piecesWithin_bracketed h, if_pos (by omega)]
    exact ⟨limit, _, [_, _], by omega, rfl, rfl, by simp [textContents]⟩

/-- Text in which nothing is taken for markup. -/
theorem shownAs_of_all (h : x.all (fun c => c != '\\' && c != '[') = true) (rest : Text) :
    ShownAs x rest x := by
  induction x with
  | nil => exact shownAs_nil rest
  | cons c x ih =>
    obtain ⟨⟨hslash, hbracket⟩, htail⟩ : (c ≠ '\\' ∧ c ≠ '[') ∧ _ := by simpa using h
    have hnone : escapedTagAt? (c :: (x ++ rest)) = none :=
      escapedTagAt?_eq_none (by simpa using hslash) (by simpa using hbracket)
    exact (shownAs_singleton hnone).append (ih (by simpa using htail))

/-- **Escaped text is shown** as the text that has been escaped, up to backslashes. -/
theorem Escapes.shownAs (h : Escapes s e) (hrest : Continues s rest) : ShownAs e rest s := by
  induction h with
  | nil => exact shownAs_nil rest
  | @tag k content s e hcontent _ ih =>
    have hhead : ShownAs (slashes (2 * k + 1) ++ bracketed content) (e ++ rest)
        (slashes k ++ bracketed content) := shownAs_bracketed hcontent k _
    rw [← List.append_assoc] at hrest ⊢
    rw [← List.append_assoc]
    exact hhead.append (ih hrest.of_append)
  | @other c s e hnone he ih =>
    have hhead : ShownAs [c] (e ++ rest) [c] :=
      shownAs_singleton ((Escapes.other hnone he).escapedTagAt?_append (by simp) hnone hrest)
    exact hhead.append (ih (hrest.of_append (x := [c])))

/-- A backslash is added at the end at most, and only behind another one. -/
theorem exists_escapes (s : Text) : ∃ e, Escapes s e ∧
    (escape s = e ∨ s.getLast? = some '\\' ∧ escape s = e ++ ['\\']) := by
  have he : Escapes s (escapeWithin s.length s) := escapes_escapeWithin le_rfl
  refine ⟨_, he, ?_⟩
  rw [← he.getLast?_eq, List.getLast?_eq_head?_reverse, escape]
  split
  · rename_i hreverse
    exact Or.inr ⟨by rw [hreverse]; rfl, rfl⟩
  · rename_i hreverse
    split
    · exact Or.inl rfl
    · exact Or.inr ⟨by rw [hreverse]; rfl, rfl⟩
  · exact Or.inl rfl

theorem firstBracket?_escape (h : s.getLast? ≠ some '\\') :
    firstBracket? (escape s) = firstBracket? s := by
  obtain ⟨e, he, hescape | ⟨hlast, -⟩⟩ := exists_escapes s
  · rw [hescape, he.firstBracket?_eq]
  · exact absurd hlast h

theorem shownAs_escape (h : Continues s rest) : ShownAs (escape s) rest s := by
  obtain ⟨e, he, hescape | ⟨hlast, hescape⟩⟩ := exists_escapes s
  · rw [hescape]
    exact he.shownAs h
  · have hnone : escapedTagAt? ('\\' :: rest) = none :=
      escapedTagAt?_slash_cons_eq_none.2 (h.slash hlast)
    have hcloses : firstBracket? (['\\'] ++ rest) ≠ some ']' := by
      rw [firstBracket?_append_of_forall (Text.forall_of_all (by decide))]
      exact h.closes
    have hslash : ShownAs ['\\'] rest [] := shownAs_singleton hnone
    rw [hescape, ← List.append_nil s]
    exact (he.shownAs ⟨hcloses, fun _ => hnone⟩).append hslash

/-! ## Rendering -/

/-- **A stretch of text in the style of errors** is rendered, one chunk of it after the other. -/
theorem render_red (emojis : Emoji.Names) (h : ShownAs x "[/red]".toList shown) :
    ∃ chunks : List Text, render emojis ("[red]".toList ++ x ++ "[/red]".toList) =
        .ok (chunks.flatMap (Emoji.replace emojis)) ∧
      unslashed chunks.flatten = unslashed shown := by
  obtain ⟨limit, position, list, hlimit, hpieces, htags, hshown⟩ := h (x.length + 10) 5 (by simp)
  have hlast : piecesWithin limit position "[/red]".toList =
      [.text [] false, .tag "/red".toList position] := by
    cases limit with
    | zero => simp at hlimit
    | succ limit => exact (piecesWithin_tag isTag_endRed []).trans (by rw [piecesWithin_nil])
  have hlength : ("[red]".toList ++ x ++ "[/red]".toList).length = x.length + 10 + 1 := by simp
  have hall : piecesWithin ("[red]".toList ++ x ++ "[/red]".toList).length 0
      ("[red]".toList ++ x ++ "[/red]".toList) = [.text [] false, .tag "red".toList 0] ++
        (list ++ [.text [] false, .tag "/red".toList position]) := by
    rw [hlength, List.append_assoc, ← hlast, ← hpieces]
    exact piecesWithin_tag isTag_red _
  have husable : Usable [] (tagContents (pieces ("[red]".toList ++ x ++ "[/red]".toList))) := by
    rw [pieces, tagContents_foldr_before, hall, tagContents_append, tagContents_append, htags]
    exact usable_red
  refine ⟨_, render_of_usable emojis husable, ?_⟩
  have hempty : textContents [.text [] false, .tag "/red".toList position] = [[]] := rfl
  have hempty' : textContents [.text [] false, .tag "red".toList 0] = [[]] := rfl
  rw [pieces, flatten_textContents_foldr_before, hall, textContents_append, textContents_append,
    hempty, hempty', ← hshown]
  simp

end Markup

end LinearProgram
