import LinearProgram.Proofs.Notation.Kind
import LinearProgram.Proofs.Notation.Reading

/-!
# Names in the models of documents

A statement comes to the reader of its kind only when no mark of an earlier kind has been found in
it, and marks are looked for everywhere, also within names. So a name in which `var` stands can be
declared, but no objective and no constraint can be called by it, and no sum can use it; for
constraints the same holds of the keywords of objectives (`Model.Expressible`).

Main result: `Document.expressible_of_read`.
-/

namespace LinearProgram

/-- The names in an objective: its own and those of its terms. -/
def Objective.names {α : Type} (o : Objective α) : List Text := o.name :: o.terms.map (·.name)

/-- The names in a constraint: its own and those of its terms. -/
def Constraint.names {α : Type} (c : Constraint α) : List Text := c.name :: c.terms.map (·.name)

open Statement in
/-- What all models that documents can express have in common. -/
structure Model.Expressible (m : Model Number) : Prop where
  declarations : ∀ t ∈ m.declarations, isName t.name = true ∧ t.coefficient = 0
  objective : m.objective.terms ≠ [] ∧
    ∀ name ∈ m.objective.names, isName name = true ∧ ¬varKeyword <:+: name
  constraints : ∀ c ∈ m.constraints, c.terms ≠ [] ∧
    ∀ name ∈ c.names, isName name = true ∧
      ¬varKeyword <:+: name ∧ ¬minimizeKeyword <:+: name ∧ ¬maximizeKeyword <:+: name

namespace Statement

variable {s w name : Text} {ts : List (Term Number)}

/-! ## Marks of earlier kinds -/

theorem not_infix_of_objective (h : kind? s = some .objective) : ¬varKeyword <:+: s := by
  intro hvar
  simp only [kind?, Text.mentions_iff.2 hvar] at h
  split at h <;> simp at h

theorem not_infix_of_constraint (h : kind? s = some .constraint) :
    ¬varKeyword <:+: s ∧ ¬minimizeKeyword <:+: s ∧ ¬maximizeKeyword <:+: s := by
  by_cases hhash : s.contains '#' = true
  · rw [kind?, if_pos hhash] at h
    simp at h
  · rw [kind?_of_hash_not_mem (by simpa using hhash)] at h
    by_cases hvar : varKeyword <:+: s
    · simp [hvar] at h
    · by_cases hobjective : minimizeKeyword <:+: s ∨ maximizeKeyword <:+: s
      · simp [hvar, hobjective] at h
      · exact ⟨hvar, not_or.1 hobjective⟩

/-! ## Names of forms -/

theorem ne_nil_of_readTerms {statement : Option Text} (h : readTerms statement s = .ok ts) :
    ts ≠ [] := by
  obtain ⟨forms, hne, -, rfl⟩ := readTerms_eq_ok_iff.1 h
  exact mt List.map_eq_nil_iff.1 hne

/-- The name of a title and the names of a sum are names. -/
theorem isName_of_mem_names {statement : Option Text} (title : Title)
    (h : readTerms statement s = .ok ts) (hname : name ∈ title.name.1 :: ts.map (·.name)) :
    isName name = true := by
  rcases List.mem_cons.1 hname with rfl | hname
  · exact title.name.2
  · obtain ⟨t, ht, rfl⟩ := List.mem_map.1 hname
    exact isName_of_readTerms h t ht

/-- An objective mentions what its names mention. -/
theorem ObjectiveForm.infix_text_of_mem_names (hw : Word w) (f : ObjectiveForm)
    (hname : name ∈ f.objective.names) (h : w <:+: name) : w <:+: f.text := by
  rw [f.infix_text_iff hw]
  rcases List.mem_cons.1 hname with rfl | hname
  · exact Or.inr (Or.inl h)
  · obtain ⟨t, ht, rfl⟩ := List.mem_map.1 hname
    exact Or.inr (Or.inr ⟨t, ht, h⟩)

/-- A constraint mentions what its names mention. -/
theorem ConstraintForm.infix_text_of_mem_names (hw : Word w) (f : ConstraintForm)
    (hname : name ∈ f.constraint.names) (h : w <:+: name) : w <:+: f.text := by
  rw [f.infix_text_iff hw]
  rcases List.mem_cons.1 hname with rfl | hname
  · exact Or.inr (Or.inr (Or.inl h))
  · obtain ⟨t, ht, rfl⟩ := List.mem_map.1 hname
    exact Or.inr (Or.inr (Or.inr ⟨t, ht, h⟩))

/-! ## Statements that are read as their kind -/

theorem declaration_of_read {t : Term Number} (h : readDeclaration s = .ok t) :
    isName t.name = true ∧ t.coefficient = 0 := by
  obtain ⟨f, -, rfl⟩ := readDeclaration_eq_ok_iff.1 h
  exact ⟨f.name.2, rfl⟩

theorem objective_of_read {o : Objective Number} (hkind : kind? s = some .objective)
    (h : readObjective s = .ok o) :
    o.terms ≠ [] ∧ ∀ name ∈ o.names, isName name = true ∧ ¬varKeyword <:+: name := by
  obtain ⟨f, rfl, rfl⟩ := readObjective_eq_ok_iff.1 h
  refine ⟨ne_nil_of_readTerms f.sum_reads, fun name hname => ⟨?_, fun hvar => ?_⟩⟩
  · exact isName_of_mem_names f.title f.sum_reads hname
  · exact not_infix_of_objective hkind (f.infix_text_of_mem_names word_varKeyword hname hvar)

theorem constraint_of_read {strict : Bool} {c : Constraint Number}
    (hkind : kind? s = some .constraint) (h : readConstraint strict s = .ok c) :
    c.terms ≠ [] ∧ ∀ name ∈ c.names, isName name = true ∧
      ¬varKeyword <:+: name ∧ ¬minimizeKeyword <:+: name ∧ ¬maximizeKeyword <:+: name := by
  obtain ⟨f, -, rfl, rfl⟩ := readConstraint_eq_ok_iff.1 h
  obtain ⟨hvar, hminimize, hmaximize⟩ := not_infix_of_constraint hkind
  refine ⟨ne_nil_of_readTerms f.sum_reads, fun name hname =>
    ⟨isName_of_mem_names f.title f.sum_reads hname, ?_, ?_, ?_⟩⟩
  · exact mt (f.infix_text_of_mem_names word_varKeyword hname) hvar
  · exact mt (f.infix_text_of_mem_names word_minimizeKeyword hname) hminimize
  · exact mt (f.infix_text_of_mem_names word_maximizeKeyword hname) hmaximize

end Statement

/-! ## Documents -/

namespace Document

/-- What has been read of a kind has been read from statements of this kind. -/
theorem exists_of_map_read {β : Type} {kind : Statement.Kind} {statements : List Text}
    {reader : Text → Except Fault β} {results : List β}
    (h : (ofKind kind statements).map reader = results.map .ok) {result : β}
    (hresult : result ∈ results) :
    ∃ s, Statement.kind? s = some kind ∧ reader s = .ok result := by
  have hmem : Except.ok result ∈ (ofKind kind statements).map reader := by
    rw [h]
    exact List.mem_map_of_mem hresult
  obtain ⟨s, hs, hread⟩ := List.mem_map.1 hmem
  exact ⟨s, by simpa using (List.mem_filter.1 hs).2, hread⟩

/-- **What every model that is read has in common.** -/
theorem expressible_of_read {policy : Policy} {text : Text} {m : Model Number}
    (h : read policy text = .ok m) : m.Expressible := by
  have hgathers := exists_gathers_of_read h
  obtain ⟨s, hs, hread⟩ : ∃ s, (ofKind .objective (statements text)).getLast? = some s ∧
      Statement.readObjective s = .ok m.objective := by
    simpa using hgathers.objective
  have hkind : Statement.kind? s = some .objective := by
    simpa using (List.mem_filter.1 (List.mem_of_getLast? hs)).2
  refine ⟨fun t ht => ?_, Statement.objective_of_read hkind hread, fun c hc => ?_⟩
  · obtain ⟨s, -, hread⟩ := exists_of_map_read hgathers.declarations ht
    exact Statement.declaration_of_read hread
  · obtain ⟨s, hkind, hread⟩ := exists_of_map_read hgathers.constraints hc
    exact Statement.constraint_of_read hkind hread

end Document

end LinearProgram
