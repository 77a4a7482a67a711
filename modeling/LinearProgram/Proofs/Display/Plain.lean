import LinearProgram.Proofs.Display.Rendering

/-!
# Text without markup

Some texts are shown as they are although nobody has escaped them. These are the plain ones
(`Plain`): there is no tag in them, no backslash before a bracket, none at the end, where a tag may
follow, and no code of an emoji. The first three are about markup alone (`Unmarked`).

**Unmarked text** is taken apart into its characters, whatever follows (`Unmarked.verbatim`), which
become one text again (`pieces_red`). Only codes can be shown otherwise in it.

**What is lost** of other text can be counted. Every tag costs a bracket (`Renders.count_bracket`),
and every emoji costs colons. All else that is not shown as it is costs a backslash, so where no
backslash is lost none stands before a bracket (`Renders.not_infix_of_count_eq`), and then every tag
that is written is one of the tags (`Renders.exists_of_bracketed`).
-/

namespace LinearProgram

namespace Markup

variable {emojis : Emoji.Names} {c : Char} {s t x y rest content : Text} {tags : List Text}
variable {k : Nat}

/-! ## How a text is taken apart -/

/-- A text, the tags in it and what its other pieces make up. -/
inductive Renders : Text → List Text → Text → Prop
  | nil : Renders [] [] []
  | tag {k : Nat} {content s t : Text} {tags : List Text} : IsTag content → k % 2 = 0 →
      Renders s tags t →
      Renders (slashes k ++ (bracketed content ++ s)) (content :: tags) (slashes (k / 2) ++ t)
  | escaped {k : Nat} {content s t : Text} {tags : List Text} : IsTag content → k % 2 = 1 →
      Renders s tags t →
      Renders (slashes k ++ (bracketed content ++ s)) tags
        (slashes (k / 2) ++ (bracketed content ++ t))
  | slash {s t : Text} {tags : List Text} : escapedTagAt? ('\\' :: s) = none →
      s.head? = some '[' → Renders s tags t → Renders ('\\' :: s) tags t
  | other {c : Char} {s t : Text} {tags : List Text} : escapedTagAt? (c :: s) = none →
      ¬(c = '\\' ∧ s.head? = some '[') → Renders s tags t → Renders (c :: s) tags (c :: t)

theorem length_slashes_bracketed (k : Nat) (content s : Text) :
    (slashes k ++ (bracketed content ++ s)).length = k + content.length + 2 + s.length := by
  simp [slashes, bracketed]
  omega

/-- The relation describes the pieces. -/
theorem Renders.piecesWithin_eq (h : Renders s tags t) {limit : Nat} (position : Nat)
    (hlimit : s.length ≤ limit) : tagContents (piecesWithin limit position s) = tags ∧
      (textContents (piecesWithin limit position s)).flatten = t := by
  induction h generalizing limit position with
  | nil => rw [piecesWithin_nil]; exact ⟨rfl, rfl⟩
  | @tag k content s t tags hcontent heven _ ih =>
    rw [length_slashes_bracketed] at hlimit
    obtain ⟨limit, rfl⟩ := Nat.exists_eq_add_one_of_ne_zero (n := limit) (by omega)
    obtain ⟨htags, htext⟩ := ih (position + k + content.length + 2) (show _ ≤ limit by omega)
    rw [piecesWithin_bracketed hcontent, if_neg (by omega)]
    exact ⟨congrArg (content :: ·) htags, congrArg (slashes (k / 2) ++ ·) htext⟩
  | @escaped k content s t tags hcontent hodd _ ih =>
    rw [length_slashes_bracketed] at hlimit
    obtain ⟨limit, rfl⟩ := Nat.exists_eq_add_one_of_ne_zero (n := limit) (by omega)
    obtain ⟨htags, htext⟩ := ih (position + k + content.length + 2) (show _ ≤ limit by omega)
    rw [piecesWithin_bracketed hcontent, if_pos hodd]
    exact ⟨htags, congrArg (fun t => slashes (k / 2) ++ (bracketed content ++ t)) htext⟩
  | slash hnone hbracket _ ih =>
    rw [List.length_cons] at hlimit
    obtain ⟨limit, rfl⟩ := Nat.exists_eq_add_one_of_ne_zero (n := limit) (by omega)
    obtain ⟨htags, htext⟩ := ih (position + 1) (show _ ≤ limit by omega)
    rw [piecesWithin_other hnone, if_pos (by simp [hbracket])]
    exact ⟨htags, htext⟩
  | @other c s t tags hnone hplain _ ih =>
    rw [List.length_cons] at hlimit
    obtain ⟨limit, rfl⟩ := Nat.exists_eq_add_one_of_ne_zero (n := limit) (by omega)
    obtain ⟨htags, htext⟩ := ih (position + 1) (show _ ≤ limit by omega)
    rw [piecesWithin_other hnone, if_neg (by simpa using hplain)]
    exact ⟨htags, congrArg (c :: ·) htext⟩

theorem exists_renders (s : Text) : ∃ tags t, Renders s tags t := by
  induction hlength : s.length using Nat.strong_induction_on generalizing s with
  | _ n ih =>
    cases s with
    | nil => exact ⟨[], [], .nil⟩
    | cons c s =>
      cases htag : escapedTagAt? (c :: s) with
      | some found =>
        obtain ⟨k, content, rest⟩ := found
        obtain ⟨hcontent, hs⟩ := escapedTagAt?_eq_some_iff.1 htag
        rw [hs, length_slashes_bracketed] at hlength
        obtain ⟨tags, t, hrest⟩ := ih rest.length (by omega) rest rfl
        rw [hs]
        rcases Nat.mod_two_eq_zero_or_one k with heven | hodd
        · exact ⟨_, _, .tag hcontent heven hrest⟩
        · exact ⟨_, _, .escaped hcontent hodd hrest⟩
      | none =>
        obtain ⟨tags, t, hs⟩ := ih s.length (by simp [← hlength]) s rfl
        by_cases hslash : c = '\\' ∧ s.head? = some '['
        · obtain ⟨rfl, hbracket⟩ := hslash
          exact ⟨_, _, .slash htag hbracket hs⟩
        · exact ⟨_, _, .other htag hslash hs⟩

theorem renders_pieces (s : Text) :
    Renders s (tagContents (pieces s)) (textContents (pieces s)).flatten := by
  obtain ⟨tags, t, h⟩ := exists_renders s
  obtain ⟨htags, htext⟩ := h.piecesWithin_eq 0 le_rfl
  rwa [pieces, tagContents_foldr_before, flatten_textContents_foldr_before, htags, htext]

/-! ## Unmarked text -/

/-- A text in which nothing is markup. -/
structure Unmarked (s : Text) : Prop where
  tag : ∀ content, IsTag content → ¬bracketed content <:+: s
  slash : ¬['\\', '['] <:+: s
  last : s.getLast? ≠ some '\\'

theorem Unmarked.tail (h : Unmarked (c :: s)) : Unmarked s where
  tag content hcontent hpart := h.tag content hcontent (List.infix_cons hpart)
  slash hpart := h.slash (List.infix_cons hpart)
  last hlast := h.last (by rw [List.getLast?_cons, hlast]; rfl)

/-- A bracket that is closed in the text and not behind it. -/
theorem exists_closed_of_append (hrest : firstBracket? rest ≠ some ']')
    (hx : ∀ c ∈ x, inTag c = true) (h : s ++ rest = x ++ ']' :: y) : ∃ z, s = x ++ ']' :: z := by
  rcases List.append_eq_append_iff.1 h with ⟨between, rfl, hbehind⟩ | ⟨between, rfl, hbehind⟩
  · refine absurd ?_ hrest
    rw [hbehind, firstBracket?_append_of_forall fun c hc => hx c (List.mem_append_right _ hc)]
    rfl
  · cases between with
    | nil =>
      rw [List.nil_append] at hbehind
      rw [← hbehind] at hrest
      exact absurd rfl hrest
    | cons d z =>
      obtain ⟨rfl, -⟩ := List.cons.inj hbehind
      exact ⟨z, rfl⟩

/-- In unmarked text no tag begins. -/
theorem Unmarked.escapedTagAt?_append (h : Unmarked s) (hne : s ≠ [])
    (hrest : firstBracket? rest ≠ some ']') : escapedTagAt? (s ++ rest) = none := by
  induction s with
  | nil => exact absurd rfl hne
  | cons c s ih =>
    rw [List.cons_append]
    by_cases hc : c = '\\'
    · subst hc
      have hs : s ≠ [] := by
        rintro rfl
        exact h.last rfl
      exact escapedTagAt?_slash_cons_eq_none.2 (ih h.tail hs)
    · rw [escapedTagAt?_of_ne (by simpa using hc), Option.map_eq_none_iff,
        Option.eq_none_iff_forall_ne_some]
      rintro ⟨content, r⟩ htag
      obtain ⟨hcontent, heq⟩ := tagAt?_eq_some_iff.1 htag
      obtain ⟨rfl, htail⟩ : c = '[' ∧ s ++ rest = content ++ ']' :: r := by
        simpa [bracketed] using heq
      obtain ⟨z, rfl⟩ := exists_closed_of_append hrest hcontent.forall_inTag htail
      exact h.tag content hcontent ⟨[], z, by simp [bracketed]⟩

/-- Before `rest`, a text is taken apart into its characters. -/
def Verbatim (x rest : Text) : Prop :=
  ∀ limit position : Nat, (x ++ rest).length ≤ limit →
    ∃ limit' position' : Nat, rest.length ≤ limit' ∧
      piecesWithin limit position (x ++ rest) = singles x ++ piecesWithin limit' position' rest

theorem verbatim_nil (rest : Text) : Verbatim [] rest := by
  intro limit position hlimit
  exact ⟨limit, position, hlimit, rfl⟩

theorem Verbatim.cons (h : Verbatim x rest) (hnone : escapedTagAt? (c :: (x ++ rest)) = none)
    (hplain : ¬(c = '\\' ∧ (x ++ rest).head? = some '[')) : Verbatim (c :: x) rest := by
  intro limit position hlimit
  rw [List.cons_append, List.length_cons] at hlimit
  obtain ⟨limit, rfl⟩ := Nat.exists_eq_add_one_of_ne_zero (n := limit) (by omega)
  obtain ⟨limit', position', hlimit', hpieces⟩ :=
    h limit (position + 1) (show _ ≤ limit by omega)
  refine ⟨limit', position', hlimit', ?_⟩
  rw [List.cons_append, piecesWithin_other hnone, if_neg (by simpa using hplain), hpieces]
  rfl

/-- **Unmarked text** is taken apart into its characters, if no bracket is closed behind it that it
has left open. -/
theorem Unmarked.verbatim (h : Unmarked s) (hrest : firstBracket? rest ≠ some ']') :
    Verbatim s rest := by
  induction s with
  | nil => exact verbatim_nil rest
  | cons c s ih =>
    refine (ih h.tail).cons (h.escapedTagAt?_append (by simp) hrest) ?_
    rintro ⟨rfl, hhead⟩
    cases s with
    | nil => exact h.last rfl
    | cons d s =>
      obtain rfl : d = '[' := by simpa using hhead
      exact h.slash ⟨[], s, rfl⟩

/-- Text without brackets and backslashes may stand before. -/
theorem Verbatim.append_of_all (h : Verbatim s rest)
    (hx : x.all (fun c => c != '\\' && c != '[') = true) : Verbatim (x ++ s) rest := by
  induction x with
  | nil => exact h
  | cons c x ih =>
    obtain ⟨⟨hslash, hbracket⟩, hx⟩ : (c ≠ '\\' ∧ c ≠ '[') ∧ _ := by simpa using hx
    exact (ih (by simpa using hx)).cons
      (escapedTagAt?_eq_none (by simpa using hslash) (by simpa using hbracket))
      (fun hc => hslash hc.1)

/-- What follows the tag of a style does not close a bracket before it. -/
theorem firstBracket?_endRed_append (rest : Text) :
    firstBracket? ("[/red]".toList ++ rest) ≠ some ']' := by
  rw [firstBracket?_of_head? rfl]
  decide

/-- The pieces of a text in the style of errors in which nothing is markup. -/
theorem pieces_red (hx : Verbatim x ("[/red]".toList ++ rest)) (hrest : Verbatim rest [])
    (hne : x ≠ []) (hne' : rest ≠ []) : ∃ position : Nat,
    pieces ("[red]".toList ++ x ++ "[/red]".toList ++ rest) =
      [.text [] false, .tag "red".toList 0, .text x true, .text [] false,
        .tag "/red".toList position, .text rest true] := by
  have hlength : ("[red]".toList ++ x ++ "[/red]".toList ++ rest).length =
      (x ++ ("[/red]".toList ++ rest)).length + 4 + 1 := by simp
  obtain ⟨limit, position, hlimit, hpieces⟩ :=
    hx ((x ++ ("[/red]".toList ++ rest)).length + 4) 5 (by omega)
  rw [List.length_append] at hlimit
  obtain ⟨limit, rfl⟩ := Nat.exists_eq_add_one_of_ne_zero (n := limit) (by simp at hlimit; omega)
  have hend : piecesWithin (limit + 1) position ("[/red]".toList ++ rest) = _ :=
    piecesWithin_tag isTag_endRed rest
  obtain ⟨limit', position', -, hpieces'⟩ := hrest limit
    (position + "/red".toList.length + 2) (by simp at hlimit ⊢; omega)
  have hall : piecesWithin ("[red]".toList ++ x ++ "[/red]".toList ++ rest).length 0
      ("[red]".toList ++ x ++ "[/red]".toList ++ rest) =
        .text [] false :: .tag "red".toList 0 :: (singles x ++
          (.text [] false :: .tag "/red".toList position :: singles rest)) := by
    rw [List.append_nil, piecesWithin_nil, List.append_nil] at hpieces'
    rw [hlength, ← hpieces', ← hend, ← hpieces, List.append_assoc, List.append_assoc]
    exact piecesWithin_tag isTag_red _
  have hlast : (singles rest).foldr Piece.before [] = [.text rest true] :=
    foldr_before_singles hne' (by simp)
  refine ⟨position, ?_⟩
  rw [pieces, hall, List.foldr_cons, List.foldr_cons, List.foldr_append, List.foldr_cons,
    List.foldr_cons, hlast]
  exact congrArg
    (fun list => Piece.before (.text [] false) (Piece.before (.tag "red".toList 0) list))
    (foldr_before_singles hne (by simp [Piece.before]))

/-! ## What is lost -/

theorem IsTag.count_bracket (h : IsTag content) : content.count '[' = 0 :=
  List.count_eq_zero.2 fun hmem => absurd (h.forall_inTag _ hmem) (by decide)

theorem count_bracket_slashes (k : Nat) : (slashes k).count '[' = 0 :=
  List.count_eq_zero.2 fun hmem => absurd (List.eq_of_mem_replicate hmem) (by decide)

theorem count_slash_slashes (k : Nat) : (slashes k).count '\\' = k := List.count_replicate_self

@[simp] theorem count_bracketed (c : Char) (content : Text) :
    (bracketed content).count c = content.count c + ['[', ']'].count c := by
  simp only [bracketed, List.count_cons, List.count_append, List.count_nil]
  omega

/-- Every tag costs a bracket, and nothing else does. -/
theorem Renders.count_bracket (h : Renders s tags t) :
    t.count '[' + tags.length = s.count '[' := by
  induction h with
  | nil => rfl
  | tag hcontent _ _ ih =>
    simp only [List.count_append, count_bracketed, hcontent.count_bracket, count_bracket_slashes,
      List.length_cons]
    have hpair : ['[', ']'].count '[' = 1 := rfl
    omega
  | escaped hcontent _ _ ih =>
    simp only [List.count_append, count_bracketed, hcontent.count_bracket, count_bracket_slashes]
    omega
  | slash _ _ _ ih => simpa using ih
  | @other c s t tags _ _ _ ih =>
    rw [List.count_cons, List.count_cons]
    omega

/-- What remains of a text stands in it in the same order. -/
theorem Renders.sublist (h : Renders s tags t) : t.Sublist s := by
  have hslashes (k : Nat) : (slashes (k / 2)).Sublist (slashes k) :=
    (List.replicate_sublist_replicate _).2 (Nat.div_le_self k 2)
  induction h with
  | nil => exact List.Sublist.refl _
  | @tag k content s t tags _ _ _ ih =>
    exact (hslashes k).append (ih.trans (List.sublist_append_right _ _))
  | @escaped k content s t tags _ _ _ ih =>
    exact (hslashes k).append ((List.Sublist.refl _).append ih)
  | slash _ _ _ ih => exact ih.cons _
  | other _ _ _ ih => exact ih.cons_cons _

theorem Renders.count_le (h : Renders s tags t) (c : Char) : t.count c ≤ s.count c :=
  h.sublist.count_le c

theorem infix_of_infix_append (hx : '\\' ∉ x) (h : ['\\', '['] <:+: x ++ s) :
    ['\\', '['] <:+: s := by
  induction x with
  | nil => exact h
  | cons c x ih =>
    rw [List.mem_cons, not_or] at hx
    rcases List.infix_cons_iff.1 h with hstart | hpart
    · exact absurd (List.cons_prefix_cons.1 hstart).1 hx.1
    · exact ih hx.2 hpart

/-- **Where no backslash is lost** none stands before a bracket. -/
theorem Renders.not_infix_of_count_eq (h : Renders s tags t)
    (hcount : t.count '\\' = s.count '\\') : ¬['\\', '['] <:+: s := by
  induction h with
  | nil => simp
  | @tag k content s t tags hcontent _ hs ih =>
    simp only [List.count_append, count_slash_slashes, count_bracketed] at hcount
    have hle := hs.count_le '\\'
    obtain rfl : k = 0 := by omega
    have hslash : '\\' ∉ bracketed content := by
      rw [← List.count_eq_zero, count_bracketed]
      have hpair : ['[', ']'].count '\\' = 0 := rfl
      omega
    exact fun hpart => ih (by omega) (infix_of_infix_append hslash hpart)
  | @escaped k content s t tags _ hodd hs _ =>
    simp only [List.count_append, count_slash_slashes] at hcount
    have hle := hs.count_le '\\'
    omega
  | slash _ _ hs _ =>
    have hle := hs.count_le '\\'
    simp at hcount
    omega
  | @other c s t tags _ hplain _ ih =>
    rw [List.count_cons, List.count_cons, Nat.add_right_cancel_iff] at hcount
    intro hpart
    rcases List.infix_cons_iff.1 hpart with hstart | hpart
    · obtain ⟨rfl, hbracket⟩ := List.cons_prefix_cons.1 hstart
      obtain ⟨z, rfl⟩ := hbracket
      exact hplain ⟨rfl, rfl⟩
    · exact ih hcount hpart

theorem infix_slashes_bracketed (k : Nat) (content s : Text) :
    ['\\', '['] <:+: slashes (k + 1) ++ (bracketed content ++ s) :=
  ⟨slashes k, content ++ ']' :: s, by
    simp [slashes, bracketed, List.replicate_succ', List.append_assoc]⟩

/-- **A tag that is written** is one of the tags, if no backslash stands before a bracket. What
follows it is taken apart on its own. -/
theorem Renders.exists_of_bracketed (h : Renders s tags t) (hslash : ¬['\\', '['] <:+: s)
    (hcontent : IsTag content) (hs : s = x ++ (bracketed content ++ y)) :
    ∃ before after t', tags = before ++ content :: after ∧ Renders y after t' := by
  induction h generalizing x with
  | nil => simp [bracketed] at hs
  | @tag k content' s t tags hcontent' _ hrest ih =>
    cases k with
    | succ k => exact absurd (infix_slashes_bracketed k content' s) hslash
    | zero =>
      rw [slashes, List.replicate_zero, List.nil_append] at hs hslash
      cases x with
      | nil =>
        -- It is this tag.
        have htag := tagAt?_bracketed hcontent' s
        rw [hs, List.nil_append, tagAt?_bracketed hcontent] at htag
        obtain ⟨rfl, rfl⟩ : content = content' ∧ y = s := by simpa using htag
        exact ⟨[], tags, t, rfl, hrest⟩
      | cons d x =>
        -- It is behind this tag, in which there is no bracket.
        obtain ⟨-, htail⟩ : '[' = d ∧ content' ++ ']' :: s = x ++ (bracketed content ++ y) := by
          simpa [bracketed] using hs
        rcases List.append_eq_append_iff.1 htail with ⟨between, rfl, hbehind⟩ |
          ⟨between, rfl, hbehind⟩
        · cases between with
          | nil => simp [bracketed] at hbehind
          | cons d z =>
            obtain ⟨-, hz⟩ := List.cons.inj hbehind
            have hpart : ¬['\\', '['] <:+: s := fun hpart =>
              hslash (hpart.trans (List.suffix_append _ _).isInfix)
            obtain ⟨before, after, t', rfl, hy⟩ := ih hpart hz
            exact ⟨content' :: before, after, t', rfl, hy⟩
        · have hbracket : '[' ∈ x ++ between := by
            cases between with
            | nil => simp [bracketed] at hbehind
            | cons d z =>
              obtain ⟨rfl, -⟩ : '[' = d ∧ _ := by simpa [bracketed] using hbehind
              simp
          exact absurd (hcontent'.forall_inTag _ hbracket) (by decide)
  | @escaped k content' s t tags _ hodd _ _ =>
    cases k with
    | succ k => exact absurd (infix_slashes_bracketed k content' s) hslash
    | zero => exact absurd hodd (by decide)
  | @slash s t tags _ hbracket _ _ =>
    cases s with
    | nil => simp at hbracket
    | cons d s =>
      obtain rfl : d = '[' := by simpa using hbracket
      exact absurd ⟨[], s, rfl⟩ hslash
  | @other c s t tags hnone _ _ ih =>
    cases x with
    | nil =>
      have htag := escapedTagAt?_bracketed hcontent 0 y
      rw [slashes, List.replicate_zero, List.nil_append, ← List.nil_append (bracketed content ++ y),
        ← hs, hnone] at htag
      simp at htag
    | cons d x =>
      obtain ⟨-, hz⟩ := List.cons.inj hs
      exact ih (fun hpart => hslash (List.infix_cons hpart)) hz

/-- A text is unmarked if no tag is in it, nothing of it is lost, and no backslash is at its end. -/
theorem unmarked_iff : Unmarked s ↔ tagContents (pieces s) = [] ∧
    (textContents (pieces s)).flatten = s ∧ s.getLast? ≠ some '\\' := by
  constructor
  · intro h
    have hverbatim : Verbatim s [] := h.verbatim (by simp [firstBracket?])
    obtain ⟨limit, position, -, hpieces⟩ := hverbatim s.length 0 (by simp)
    rw [List.append_nil, piecesWithin_nil, List.append_nil] at hpieces
    rw [pieces, tagContents_foldr_before, flatten_textContents_foldr_before, hpieces]
    exact ⟨tagContents_singles s, flatten_textContents_singles s, h.last⟩
  · rintro ⟨htags, htext, hlast⟩
    have hrenders := renders_pieces s
    rw [htags, htext] at hrenders
    have hslash := hrenders.not_infix_of_count_eq rfl
    refine ⟨?_, hslash, hlast⟩
    rintro content hcontent ⟨p, q, hs⟩
    obtain ⟨before, after, -, hnil, -⟩ :=
      hrenders.exists_of_bracketed (y := q) hslash hcontent (by rw [← hs, List.append_assoc])
    simp at hnil

instance (s : Text) : Decidable (Unmarked s) := decidable_of_iff _ unmarked_iff.symm

/-- A tag, a backslash before a bracket and one at the end are markup; other brackets are not. -/
example : Unmarked "[Bold] [0] \\ ]b[".toList ∧ ¬Unmarked "[bold]".toList ∧
    ¬Unmarked "\\[0]".toList ∧ ¬Unmarked "\\".toList := by decide +kernel

/-! ## Plain text -/

/-- A text that is shown as it is. -/
structure Plain (emojis : Emoji.Names) (s : Text) : Prop where
  unmarked : Unmarked s
  codes : ∀ code ∈ Emoji.codes s, Emoji.ofCode? emojis code = none

instance (emojis : Emoji.Names) (s : Text) : Decidable (Plain emojis s) :=
  decidable_of_iff (Unmarked s ∧ ∀ code ∈ Emoji.codes s, Emoji.ofCode? emojis code = none)
    ⟨fun h => ⟨h.1, h.2⟩, fun h => ⟨h.unmarked, h.codes⟩⟩

/-- Where no colon is lost, the texts among the pieces are shown as they are. -/
theorem eq_of_render_of_count (hnames : emojis.Colonless) (h : render emojis s = .ok t)
    (hcount : t.count ':' = s.count ':') : t = (textContents (pieces s)).flatten ∧
      ∀ chunk ∈ textContents (pieces s), ∀ code ∈ Emoji.codes chunk,
        Emoji.ofCode? emojis code = none := by
  have hle := (renders_pieces s).count_le ':'
  rw [← hcount, eq_of_render h] at hle
  have hcodes := Emoji.ofCode?_eq_none_of_count_flatMap hnames
    (Nat.le_antisymm (Emoji.count_flatMap_replace_le hnames _) hle)
  refine ⟨?_, hcodes⟩
  rw [eq_of_render h, List.flatMap_def,
    List.map_congr_left fun chunk hchunk => Emoji.replace_eq (hcodes chunk hchunk), List.map_id']

/-! ## In the style of errors -/

/-- Words in the style of errors that quote a text as it is, and words behind them. -/
def framed (before s behind : Text) : Text :=
  "[red]".toList ++ (before ++ s) ++ "[/red]".toList ++ behind

theorem framed_eq (before s behind : Text) : framed before s behind =
    bracketed "red".toList ++ (before ++ (s ++ (bracketed "/red".toList ++ behind))) := by
  have hframed : framed before s behind =
      "[red]".toList ++ (before ++ s) ++ "[/red]".toList ++ behind := rfl
  rw [hframed]
  simp [bracketed]

/-- Only the tags of the style are no words. -/
theorem count_framed (c : Char) (before s behind : Text) : (framed before s behind).count c =
    (before ++ (s ++ behind)).count c +
      (bracketed "red".toList ++ bracketed "/red".toList).count c := by
  simp only [framed_eq, List.count_append]
  omega

/-- Words that quote a text. No markup and no code is in them, and no code is begun before the
text. -/
structure Frame (before behind : Text) : Prop where
  before_ne : before ≠ []
  before_all : before.all (fun c => c != '\\' && c != '[') = true
  codes_before : ∀ s, Emoji.codes (before ++ s) = Emoji.codes s
  behind_ne : behind ≠ []
  behind_unmarked : Unmarked behind
  codes_behind : Emoji.codes behind = []

namespace Frame

variable {before behind : Text}

theorem exists_pieces (h : Frame before behind) (hs : Unmarked s) : ∃ position : Nat,
    pieces (framed before s behind) =
      [.text [] false, .tag "red".toList 0, .text (before ++ s) true, .text [] false,
        .tag "/red".toList position, .text behind true] :=
  pieces_red ((hs.verbatim (firstBracket?_endRed_append behind)).append_of_all h.before_all)
    (h.behind_unmarked.verbatim (by simp [firstBracket?])) (by simp [h.before_ne]) h.behind_ne

/-- A plain text is shown as it is. -/
theorem render_of_plain (h : Frame before behind) (hs : Plain emojis s) :
    render emojis (framed before s behind) = .ok (before ++ (s ++ behind)) := by
  obtain ⟨position, hpieces⟩ := h.exists_pieces hs.unmarked
  have hbefore : Emoji.replace emojis (before ++ s) = before ++ s :=
    Emoji.replace_eq (by rw [h.codes_before]; exact hs.codes)
  have hbehind : Emoji.replace emojis behind = behind :=
    Emoji.replace_eq (by rw [h.codes_behind]; simp)
  have husable : Usable [] (tagContents (pieces (framed before s behind))) := by
    rw [hpieces]
    exact usable_red
  have htexts : textContents (pieces (framed before s behind)) = [[], before ++ s, [], behind] := by
    rw [hpieces]
    rfl
  have hnil : Emoji.replace emojis [] = [] := rfl
  rw [render_of_usable emojis husable, htexts]
  simp only [List.flatMap_cons, List.flatMap_nil, hnil, hbefore, hbehind, List.nil_append,
    List.append_nil, List.append_assoc]

/-- A text of which neither brackets nor backslashes are lost is unmarked. -/
theorem unmarked_of_renders (h : Renders (framed before s behind) tags t)
    (hslash : t.count '\\' = (before ++ (s ++ behind)).count '\\')
    (hbracket : t.count '[' = (before ++ (s ++ behind)).count '[') : Unmarked s := by
  have htags : tags.length = 2 := by
    have htwo : (bracketed "red".toList ++ bracketed "/red".toList).count '[' = 2 := by decide
    have := h.count_bracket
    rw [count_framed, hbracket, htwo] at this
    omega
  have hzero : (bracketed "red".toList ++ bracketed "/red".toList).count '\\' = 0 := by decide
  have hnone := h.not_infix_of_count_eq (by rw [count_framed, hslash, hzero]; rfl)
  rw [framed_eq, ← List.nil_append (bracketed _ ++ _)] at h
  rw [framed_eq] at hnone
  have hbehind {z : Text} (hz : z <:+ before ++ (s ++ (bracketed "/red".toList ++ behind))) :
      ¬['\\', '['] <:+: z := fun hpart =>
    hnone (hpart.trans (hz.isInfix.trans (List.suffix_append _ _).isInfix))
  constructor
  · -- A tag in the text would be the third one.
    rintro content hcontent ⟨p, q, rfl⟩
    obtain ⟨first, others, _, rfl, hafter⟩ := h.exists_of_bracketed hnone isTag_red rfl
    obtain ⟨first', others', _, rfl, hafter'⟩ := hafter.exists_of_bracketed (x := before ++ p)
      (y := q ++ (bracketed "/red".toList ++ behind)) (hbehind List.suffix_rfl) hcontent (by simp)
    obtain ⟨first'', others'', _, rfl, -⟩ := hafter'.exists_of_bracketed
      (hbehind ⟨before ++ (p ++ bracketed content), by simp⟩) isTag_endRed rfl
    simp only [List.length_append, List.length_cons] at htags
    omega
  · exact fun hpart => hbehind (List.suffix_append before _)
      (hpart.trans (List.prefix_append _ _).isInfix)
  · intro hlast
    obtain ⟨p, rfl⟩ := List.getLast?_eq_some_iff.1 hlast
    exact hbehind (List.suffix_append before _) ⟨p, "/red]".toList ++ behind, by simp [bracketed]⟩

/-- **A text that is shown as it is** is plain. It is enough that as many colons, brackets and
backslashes are shown as there are. -/
theorem plain_of_render (h : Frame before behind) (hnames : emojis.Colonless)
    (hrender : render emojis (framed before s behind) = .ok t)
    (hcount : ∀ c ∈ [':', '[', '\\'], t.count c = (before ++ (s ++ behind)).count c) :
    Plain emojis s := by
  have hzero : (bracketed "red".toList ++ bracketed "/red".toList).count ':' = 0 := by decide
  obtain ⟨ht, hcodes⟩ := eq_of_render_of_count hnames hrender
    (by rw [count_framed, hzero, hcount _ (by simp)]; rfl)
  have hunmarked : Unmarked s := unmarked_of_renders (ht ▸ renders_pieces (framed before s behind))
    (hcount _ (by simp)) (hcount _ (by simp))
  obtain ⟨position, hpieces⟩ := h.exists_pieces hunmarked
  refine ⟨hunmarked, ?_⟩
  rw [← h.codes_before]
  refine hcodes _ ?_
  rw [hpieces]
  simp [textContents]

end Frame

end Markup

end LinearProgram
