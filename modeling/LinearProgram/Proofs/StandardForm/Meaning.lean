import LinearProgram.Proofs.StandardForm.Exact
import LinearProgram.Proofs.StandardForm.Slack

/-!
# Standard form preserves meaning

The program of a model asks for the same assignments as the model. An assignment that is not
negative satisfies the constraints exactly when slacks complete it to a point of the program
(`Program.Completes`); these slacks are the gaps of the inequalities and nothing else, and the costs
of the point are the value of the objective, whatever the slacks are.

Main result: `Document.program_meaning`, for the programs of documents.
-/

namespace LinearProgram

namespace Program

/-- The matrix has a row for each bound, and rows and costs have an entry for each column. -/
structure Rectangular {α : Type} (p : Program α) : Prop where
  rows : ∀ row ∈ p.matrix, row.length = p.columnCount
  costs : p.costs.length = p.columnCount
  bounds : p.bounds.length = p.rowCount

/-- The slacks are not negative, and together with the assignment they satisfy the equations. -/
structure Completes (p : Program Rat) (x : Text → Rat) (s : List Rat) : Prop where
  length : s.length = p.slacks.length
  nonneg : ∀ v ∈ s, 0 ≤ v
  rows : p.matrix.map (dot · (p.unknowns.map x ++ s)) = p.bounds

end Program

theorem Model.rectangular_standardForm {α : Type} [Zero α] [One α] [Neg α] [Add α] (m : Model α) :
    m.standardForm.Rectangular where
  rows row hrow := by
    rw [standardForm, Assembly.layout, ← List.map_uncurry_zip_eq_zipWith] at hrow
    obtain ⟨⟨entries, slacks⟩, hmem, rfl⟩ := List.mem_map.1 hrow
    obtain ⟨hentries, hslacks⟩ := List.of_mem_zip hmem
    obtain ⟨c, -, rfl⟩ := List.mem_map.1 hentries
    simp [standardForm, Assembly.layout, Program.columnCount, Program.columns,
      Assembly.length_of_mem_slackRows hslacks]
  costs := by simp [standardForm, Assembly.layout, Program.columnCount, Program.columns]
  bounds := by simp [standardForm, Assembly.layout, Program.rowCount, Assembly.length_slackRows]

namespace Model

variable {e : Model Rat} {x : Text → Rat} {s : List Rat}

/-- Slacks complete an assignment exactly when it satisfies the constraints and they are the
gaps. -/
theorem completes_iff (he : e.WellNamed) : e.standardForm.Completes x s ↔
    (∀ c ∈ e.constraints, c.Satisfied x) ∧ s = Assembly.gaps x e.constraints := by
  have hslacks : e.standardForm.slacks.length =
      (e.constraints.filter (·.relation != .equal)).length := List.length_map _
  have hrows (hlength : s.length = (e.constraints.filter (·.relation != .equal)).length) :
      e.standardForm.matrix.map (dot · (e.variableNames.map x ++ s)) =
          e.standardForm.bounds ↔
        (∀ c ∈ e.constraints, c.relation = .equal → termsValue x c.terms = c.constant) ∧
          s = Assembly.gaps x e.constraints := by
    have h := Assembly.rows_hold_iff (x := x) he.unknowns he.rows
      ((Nat.zero_add _).trans hlength.symm)
    rwa [hlength, List.drop_zero] at h
  constructor
  · rintro ⟨hlength, hnonneg, hp⟩
    obtain ⟨hequations, rfl⟩ := (hrows (hlength.trans hslacks)).1 hp
    refine ⟨fun c hc => Constraint.satisfied_iff_gap.2 ⟨hequations c hc, fun hne => ?_⟩, rfl⟩
    exact hnonneg _ (Assembly.mem_gaps_iff.2 ⟨c, hc, hne, rfl⟩)
  · rintro ⟨hsat, rfl⟩
    have hgaps c (hc : c ∈ e.constraints) := Constraint.satisfied_iff_gap.1 (hsat c hc)
    have hlength : (Assembly.gaps x e.constraints).length =
        (e.constraints.filter (·.relation != .equal)).length := List.length_map _
    refine ⟨hlength.trans hslacks.symm, fun v hv => ?_, ?_⟩
    · obtain ⟨c, hc, hne, rfl⟩ := Assembly.mem_gaps_iff.1 hv
      exact (hgaps c hc).2 hne
    · exact (hrows hlength).2 ⟨fun c hc => (hgaps c hc).1, rfl⟩

/-- Whatever the slacks are, they cost nothing. -/
theorem dot_costs (he : e.WellNamed) :
    dot e.standardForm.costs (e.variableNames.map x ++ s) =
      e.objective.value x := by
  show dot (e.variableNames.map (columnSum 0 e.objective.terms) ++ List.replicate _ 0) _ = _
  rw [dot_append (by simp), dot_columnSums he.unknowns he.costs, dot_replicate_zero, add_zero]
  rfl

end Model

namespace Document

variable {policy : Policy} {text : Text} {p : Program Number} {m : Model Number} {e : Model Rat}

/-- **Standard form preserves meaning.** No assignment has to be left out for having negative
values. -/
theorem program_meaning (hp : program policy text = .ok p) (hm : read policy text = .ok m)
    (he : m.rational? = some e) :
    ∃ q, e.program = .ok q ∧ q.Rectangular ∧ q.unknowns = p.unknowns ∧ q.slacks = p.slacks ∧
      (m.AddsExactly → p.ReadsAs q) ∧
      ∀ x : Text → Rat,
        ((∀ c ∈ e.constraints, c.Satisfied x) ↔ ∃ s, q.Completes x s) ∧
        (∀ s s', q.Completes x s → q.Completes x s' → s = s') ∧
        ∀ s, s.length = q.slacks.length →
          dot q.costs (q.unknowns.map x ++ s) = e.objective.value x := by
  obtain ⟨_, hm', hprogram⟩ := program_eq_ok_iff.1 hp
  obtain rfl := Except.ok.inj (hm.symm.trans hm')
  obtain ⟨hnamed, rfl⟩ := Model.program_eq_ok_iff.1 hprogram
  have hexact := hnamed.exact he
  refine ⟨e.standardForm, Model.program_eq_ok_iff.2 ⟨hexact, rfl⟩,
    Model.rectangular_standardForm e, Model.variableNames_exact he, Model.slacks_exact he,
    Model.readsAs_of_addsExactly he, fun x => ⟨⟨fun hsat => ?_, ?_⟩, ?_, fun s _ => ?_⟩⟩
  · exact ⟨_, (Model.completes_iff hexact).2 ⟨hsat, rfl⟩⟩
  · rintro ⟨s, hs⟩
    exact ((Model.completes_iff hexact).1 hs).1
  · intro s s' hs hs'
    rw [((Model.completes_iff hexact).1 hs).2, ((Model.completes_iff hexact).1 hs').2]
  · exact Model.dot_costs hexact

/-- An equation between two inequalities, a repeated name in a row and one in the costs. -/
def mixedRelations : Text :=
  ("var x; var y; maximize f: 3*x + 2*y + x; " ++
    "subject to c1: x + y + x <= 10; subject to c2: x == 2; subject to c3: y >= 1").toList

/-- What it says in exact numbers. -/
def mixedModel : Model Rat :=
  let x := "x".toList
  let y := "y".toList
  ⟨[⟨x, 0⟩, ⟨y, 0⟩],
    [⟨"c1".toList, [⟨x, 1⟩, ⟨y, 1⟩, ⟨x, 1⟩], 10, .atMost⟩, ⟨"c2".toList, [⟨x, 1⟩], 2, .equal⟩,
      ⟨"c3".toList, [⟨y, 1⟩], 1, .atLeast⟩],
    ⟨"f".toList, [⟨x, 3⟩, ⟨y, 2⟩, ⟨x, 1⟩], .maximize⟩⟩

theorem program_meaning_of_mixed_relations :
    ∃ p q, program {} mixedRelations = .ok p ∧ mixedModel.program = .ok q ∧ p.ReadsAs q ∧
      ∀ x : Text → Rat, (∀ c ∈ mixedModel.constraints, c.Satisfied x) ↔ ∃ s, q.Completes x s := by
  have hread : (read {} mixedRelations).toOption.any (fun m => decide
      (m.rational? = some mixedModel ∧ m.AddsExactly)) := by decide +kernel
  have hprogram : (program {} mixedRelations).toOption.isSome := by decide +kernel
  cases hm : read {} mixedRelations with
  | error fault => simp [hm, Except.toOption] at hread
  | ok m =>
    cases hp : program {} mixedRelations with
    | error failure => simp [hp, Except.toOption] at hprogram
    | ok p =>
      obtain ⟨he, hadds⟩ : m.rational? = some mixedModel ∧ m.AddsExactly := by
        simpa [hm, Except.toOption] using hread
      obtain ⟨q, hq, -, -, -, hreads, hmeaning⟩ := program_meaning hp hm he
      exact ⟨p, q, rfl, hq, hreads hadds, fun x => (hmeaning x).1⟩

end Document

end LinearProgram
