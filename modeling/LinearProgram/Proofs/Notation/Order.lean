import LinearProgram.Proofs.Notation.Reading

/-!
# The order of statements

What a document is read as depends on the order among its declarations, among its constraints and
among its objectives. It depends neither on how statements of different kinds are mixed nor on
comments (`Rearranged`).

The readings of rearranged statements pass through different drafts, and where they fail they may
stop at different statements, so they are not compared step by step. What a document is read as can
be told from all of its statements at once (`Document.read_eq_ok_iff`), and rearranging keeps every
part of that (`Draft.Gathers.of_rearranged`).
-/

namespace LinearProgram

/-- The comments are the statements with a number sign. -/
theorem Statement.kind?_eq_comment_iff {s : Text} : kind? s = some .comment ↔ '#' ∈ s := by
  constructor
  · intro h
    by_contra hhash
    simp only [kind?, List.contains_iff_mem, hhash, if_false] at h
    split at h
    · simp at h
    · split at h
      · simp at h
      · split at h <;> simp at h
  · intro h
    simp [kind?, h]

/-- The statements that are no comments. -/
def Document.withoutComments (statements : List Text) : List Text :=
  statements.filter fun s => '#' ∉ s

/-- Both lists have the same statements, comments apart, and in each the statements of one kind
stand in the same order. -/
structure Rearranged (first second : List Text) : Prop where
  perm : (Document.withoutComments first).Perm (Document.withoutComments second)
  order : ∀ kind, kind ≠ .comment → Document.ofKind kind first = Document.ofKind kind second

variable {first second : List Text}

theorem Rearranged.symm (h : Rearranged first second) : Rearranged second first :=
  ⟨h.perm.symm, fun kind hkind => (h.order kind hkind).symm⟩

/-- Comments can always be read, so rearranging keeps statements readable. -/
theorem Rearranged.readable {policy : Policy} (h : Rearranged first second)
    (hfirst : ∀ s ∈ first, Statement.Readable policy s) :
    ∀ s ∈ second, Statement.Readable policy s := by
  intro s hs
  by_cases hhash : '#' ∈ s
  · exact Statement.readable_of_comment (Statement.kind?_eq_comment_iff.2 hhash)
  · have hmem : s ∈ Document.withoutComments second :=
      List.mem_filter.2 ⟨hs, by simpa using hhash⟩
    exact hfirst s (List.mem_filter.1 (h.perm.mem_iff.2 hmem)).1

/-- **A draft says what rearranged statements say** as soon as it says what the statements say. -/
theorem Draft.Gathers.of_rearranged {policy : Policy} {draft : Draft}
    (hdraft : Gathers policy first draft) (h : Rearranged first second) :
    Gathers policy second draft where
  readable := h.readable hdraft.readable
  declarations := by
    rw [← h.order .declaration (by decide)]
    exact hdraft.declarations
  constraints := by
    rw [← h.order .constraint (by decide)]
    exact hdraft.constraints
  objective := by
    rw [← h.order .objective (by decide)]
    exact hdraft.objective
  once := by
    rw [← h.order .objective (by decide)]
    exact hdraft.once

/-- Documents with rearranged statements are read as the same models. -/
theorem Rearranged.read_eq_ok_iff {text other : Text} {policy : Policy} {m : Model Number}
    (h : Rearranged (Document.statements text) (Document.statements other)) :
    Document.read policy text = .ok m ↔ Document.read policy other = .ok m := by
  rw [Document.read_eq_ok_iff, Document.read_eq_ok_iff]
  exact ⟨fun hm => hm.of_rearranged h, fun hm => hm.of_rearranged h.symm⟩

end LinearProgram
