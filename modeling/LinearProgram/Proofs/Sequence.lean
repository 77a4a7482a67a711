import Mathlib.Data.List.Forall2

/-!
# One after the other

Sums, rows and lists of numbers are made by an operation that may fail, applied to one item after
the other. The whole succeeds when every item does, with the results in order, and otherwise fails
as the first item does that fails.
-/

namespace LinearProgram

variable {α β ε : Type}

/-- What is made of a result is made where there is one. -/
theorem map_eq_ok_iff {f : α → β} {result : Except ε α} {value : β} :
    result.map f = .ok value ↔ ∃ a, result = .ok a ∧ f a = value := by
  cases result <;> simp [Except.map]

theorem map_eq_error_iff {f : α → β} {result : Except ε α} {why : ε} :
    result.map f = .error why ↔ result = .error why := by
  cases result <;> simp [Except.map]

/-- All items succeed, and the results stand in the same order. -/
theorem mapM_eq_ok_iff {f : α → Except ε β} {items : List α} {results : List β} :
    items.mapM f = .ok results ↔ List.Forall₂ (fun item result => f item = .ok result) items results
    := by
  induction items generalizing results with
  | nil =>
    rw [List.mapM_nil, List.forall₂_nil_left_iff]
    exact ⟨fun h => by cases h; rfl, fun h => by rw [h]; rfl⟩
  | cons item items ih =>
    rw [List.mapM_cons, List.forall₂_cons_left_iff]
    cases hitem : f item with
    | error why => simp [bind, Except.bind]
    | ok result =>
      cases hrest : items.mapM f with
      | error why => simp [bind, Except.bind, ← ih, hrest]
      | ok rest => simp [bind, Except.bind, pure, Except.pure, ← ih, hrest, eq_comm]

/-- One item fails first, and the whole fails as it does. -/
theorem mapM_eq_error_iff {f : α → Except ε β} {items : List α} {why : ε} :
    items.mapM f = .error why ↔ ∃ before item after, items = before ++ item :: after ∧
      (∀ x ∈ before, ∃ result, f x = .ok result) ∧ f item = .error why := by
  induction items with
  | nil => simp [pure, Except.pure]
  | cons first items ih =>
    rw [List.mapM_cons]
    cases hfirst : f first with
    | error other =>
      constructor
      · intro h
        obtain rfl : other = why := by simpa [bind, Except.bind] using h
        exact ⟨[], first, items, rfl, by simp, hfirst⟩
      · rintro ⟨before, item, after, hsplit, hbefore, hitem⟩
        cases before with
        | nil =>
          obtain ⟨rfl, -⟩ := List.cons.inj hsplit
          obtain rfl : other = why := by simpa [hfirst] using hitem
          rfl
        | cons x before =>
          obtain ⟨rfl, -⟩ := List.cons.inj hsplit
          obtain ⟨result, hx⟩ := hbefore first List.mem_cons_self
          simp [hfirst] at hx
    | ok result =>
      have hstep : (Except.ok result >>= fun r => items.mapM f >>= fun rest => pure (r :: rest)) =
          (.error why : Except ε (List β)) ↔ items.mapM f = .error why := by
        cases items.mapM f <;> simp [bind, Except.bind, pure, Except.pure]
      rw [hstep, ih]
      constructor
      · rintro ⟨before, item, after, rfl, hbefore, hitem⟩
        refine ⟨first :: before, item, after, rfl, fun x hx => ?_, hitem⟩
        rcases List.mem_cons.1 hx with rfl | hx
        · exact ⟨result, hfirst⟩
        · exact hbefore x hx
      · rintro ⟨before, item, after, hsplit, hbefore, hitem⟩
        cases before with
        | nil =>
          obtain ⟨rfl, -⟩ := List.cons.inj hsplit
          simp [hfirst] at hitem
        | cons x before =>
          obtain ⟨rfl, rfl⟩ := List.cons.inj hsplit
          exact ⟨before, item, after, rfl, fun x hx => hbefore x (List.mem_cons_of_mem _ hx), hitem⟩

/-- All items have a result, and the results stand in the same order. -/
theorem mapM_eq_some_iff {f : α → Option β} {items : List α} {results : List β} :
    items.mapM f = some results ↔
      List.Forall₂ (fun item result => f item = some result) items results := by
  induction items generalizing results with
  | nil =>
    rw [List.mapM_nil, List.forall₂_nil_left_iff]
    exact ⟨fun h => by cases h; rfl, fun h => by rw [h]; rfl⟩
  | cons item items ih =>
    rw [List.mapM_cons, List.forall₂_cons_left_iff]
    cases hitem : f item with
    | none => simp
    | some result =>
      cases hrest : items.mapM f with
      | none => simp [← ih, hrest]
      | some rest => simp [← ih, hrest, eq_comm]

/-- Items and results that come from common sources, one for each pair. -/
theorem forall₂_exists_iff {γ : Type} {f : γ → α} {g : γ → β} {items : List α}
    {results : List β} :
    List.Forall₂ (fun item result => ∃ source, f source = item ∧ g source = result) items results ↔
      ∃ sources : List γ, sources.map f = items ∧ sources.map g = results := by
  constructor
  · intro h
    induction h with
    | nil => exact ⟨[], rfl, rfl⟩
    | cons hpair _ ih =>
      obtain ⟨source, rfl, rfl⟩ := hpair
      obtain ⟨sources, rfl, rfl⟩ := ih
      exact ⟨source :: sources, rfl, rfl⟩
  · rintro ⟨sources, rfl, rfl⟩
    rw [List.forall₂_map_left_iff, List.forall₂_map_right_iff, List.forall₂_same]
    exact fun source _ => ⟨source, rfl, rfl⟩

section Results

variable {f : α → Option β} {items : List α} {results : List β}

/-- Every result is that of an item. -/
theorem exists_of_mem_of_mapM (h : items.mapM f = some results) {result : β}
    (hresult : result ∈ results) : ∃ item ∈ items, f item = some result := by
  have hall := mapM_eq_some_iff.1 h
  clear h
  induction hall with
  | nil => simp at hresult
  | cons hitem _ ih =>
    rcases List.mem_cons.1 hresult with rfl | hresult
    · exact ⟨_, List.mem_cons_self, hitem⟩
    · obtain ⟨item, hmem, heq⟩ := ih hresult
      exact ⟨item, List.mem_cons_of_mem _ hmem, heq⟩

/-- What every item has in common with its result, the lists have in common. -/
theorem map_eq_of_mapM {γ : Type} {g : α → γ} {g' : β → γ}
    (hg : ∀ item result, f item = some result → g item = g' result)
    (h : items.mapM f = some results) : items.map g = results.map g' := by
  rw [← List.forall₂_eq_eq_eq, List.forall₂_map_left_iff, List.forall₂_map_right_iff]
  exact (mapM_eq_some_iff.1 h).imp hg

end Results

end LinearProgram
