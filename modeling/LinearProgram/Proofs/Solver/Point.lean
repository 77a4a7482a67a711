import LinearProgram.Proofs.StandardForm.Meaning
import LinearProgram.Solver.Solution

/-!
# Points and assignments

A solver works on points, a model speaks of assignments. A point of the right length is an
assignment followed by slacks, and it is feasible for the problem exactly when the assignment is
feasible for the model and the slacks are the gaps of the inequalities (`Model.feasible_point_iff`).
The costs for the solver are negated where the model maximises, so that a lower cost is always a
preferred value (`Program.dot_minimizedCosts_le_iff`).
-/

namespace LinearProgram

/-! ## What a model asks for -/

/-- Whether a value is at least as good as another one. -/
def Direction.Prefers : Direction → Rat → Rat → Prop
  | .maximize, value, other => other ≤ value
  | .minimize, value, other => value ≤ other

namespace Model

/-- The assignments that are not negative and satisfy all constraints. -/
structure Feasible (e : Model Rat) (x : Text → Rat) : Prop where
  nonneg : ∀ name ∈ e.variableNames, 0 ≤ x name
  satisfied : ∀ c ∈ e.constraints, c.Satisfied x

/-- The feasible assignments of a value as good as any. -/
structure Optimal (e : Model Rat) (x : Text → Rat) : Prop where
  feasible : e.Feasible x
  prefers : ∀ y, e.Feasible y →
    e.objective.direction.Prefers (e.objective.value x) (e.objective.value y)

end Model

/-! ## Points -/

/-- Every list of values is that of an assignment to distinct names. -/
theorem exists_assignment {names : List Text} (hnodup : names.Nodup) (values : List Rat)
    (h : values.length = names.length) : ∃ x : Text → Rat, names.map x = values := by
  induction names generalizing values with
  | nil => exact ⟨0, (List.length_eq_zero_iff.1 h).symm⟩
  | cons name names ih =>
    cases values with
    | nil => simp at h
    | cons v values =>
      obtain ⟨hname, hnodup⟩ := List.nodup_cons.1 hnodup
      obtain ⟨x, rfl⟩ := ih hnodup values (Nat.succ.inj h)
      refine ⟨Function.update x name v, ?_⟩
      rw [List.map_cons, Function.update_self]
      refine congrArg (v :: ·) (List.map_congr_left fun other hother => ?_)
      exact Function.update_of_ne (fun heq : other = name => hname (heq ▸ hother)) v x

theorem dot_neg (row point : List Rat) : dot (row.map (- ·)) point = -dot row point := by
  induction row generalizing point with
  | nil => simp [dot]
  | cons a row ih =>
    cases point with
    | nil => simp [dot]
    | cons v point =>
      simp only [List.map_cons, dot, ih]
      ring

/-- Equations are made of rows and bounds pairwise. -/
theorem equations_hold_iff {rows : List (List Rat)} {bounds : List Rat} (point : List Rat)
    (h : bounds.length = rows.length) :
    (∀ equation ∈ List.zipWith Equation.mk rows bounds,
        dot equation.coefficients point = equation.bound) ↔ rows.map (dot · point) = bounds := by
  induction rows generalizing bounds with
  | nil => simp [List.length_eq_zero_iff.1 h]
  | cons row rows ih =>
    cases bounds with
    | nil => simp at h
    | cons bound bounds =>
      rw [List.zipWith_cons_cons, List.forall_mem_cons, ih (Nat.succ.inj h), List.map_cons,
        List.cons.injEq]

namespace Program

variable {p : Program Rat} {x : Text → Rat} {s : List Rat}

theorem length_minimizedCosts (hp : p.Rectangular) :
    p.minimizedCosts.length = p.unknowns.length + p.slacks.length := by
  have hcosts : p.minimizedCosts.length = p.costs.length := by
    cases h : p.direction <;> simp [minimizedCosts, h]
  rw [hcosts, hp.costs, columnCount, columns, List.length_append]

/-- The points over which is minimised are the assignments that are not negative, completed by
slacks. -/
theorem feasible_problem_iff (hp : p.Rectangular) :
    p.problem.Feasible (p.unknowns.map x ++ s) ↔
      (∀ name ∈ p.unknowns, 0 ≤ x name) ∧ p.Completes x s := by
  have hlength : (p.unknowns.map x ++ s).length = p.minimizedCosts.length ↔
      s.length = p.slacks.length := by
    rw [length_minimizedCosts hp, List.length_append, List.length_map]
    omega
  rw [Problem.Feasible, problem, hlength, equations_hold_iff _ hp.bounds, List.forall_mem_append,
    List.forall_mem_map]
  constructor
  · rintro ⟨hs, ⟨hx, hnonneg⟩, hrows⟩
    exact ⟨hx, hs, hnonneg, hrows⟩
  · rintro ⟨hx, hs, hnonneg, hrows⟩
    exact ⟨hs, ⟨hx, hnonneg⟩, hrows⟩

/-- A feasible point is an assignment, completed by slacks. -/
theorem exists_of_feasible_problem (hp : p.Rectangular) (hnodup : p.unknowns.Nodup)
    {point : List Rat} (h : p.problem.Feasible point) : ∃ x s, point = p.unknowns.map x ++ s := by
  have hlength : point.length = p.unknowns.length + p.slacks.length :=
    h.1.trans (length_minimizedCosts hp)
  obtain ⟨x, hx⟩ := exists_assignment hnodup (point.take p.unknowns.length) (by
    rw [List.length_take]
    omega)
  exact ⟨x, point.drop p.unknowns.length, by rw [hx, List.take_append_drop]⟩

/-- A lower cost for the solver is a preferred value. -/
theorem dot_minimizedCosts_le_iff {point other : List Rat} :
    dot p.minimizedCosts point ≤ dot p.minimizedCosts other ↔
      p.direction.Prefers (dot p.costs point) (dot p.costs other) := by
  cases h : p.direction <;> simp [minimizedCosts, h, dot_neg, Direction.Prefers]

/-- A cost that is low enough is a value that is preferred to a given one. -/
theorem exists_limit_prefers (p : Program Rat) (value : Rat) : ∃ limit, ∀ point,
    dot p.minimizedCosts point < limit → p.direction.Prefers (dot p.costs point) value := by
  cases h : p.direction with
  | maximize =>
    refine ⟨-value, fun point hlt => ?_⟩
    simp only [minimizedCosts, h, dot_neg, neg_lt_neg_iff] at hlt
    exact hlt.le
  | minimize =>
    refine ⟨value, fun point hlt => ?_⟩
    simp only [minimizedCosts, h] at hlt
    exact hlt.le

end Program

namespace Model

variable {e : Model Rat} {x : Text → Rat} {s : List Rat}

/-- **Points of a model's program.** The slacks of a feasible point are the gaps. -/
theorem feasible_point_iff (he : e.WellNamed) :
    e.standardForm.problem.Feasible (e.variableNames.map x ++ s) ↔
      e.Feasible x ∧ s = Assembly.gaps x e.constraints := by
  refine (Program.feasible_problem_iff e.rectangular_standardForm).trans ?_
  rw [completes_iff he]
  exact ⟨fun ⟨hx, hsat, hs⟩ => ⟨⟨hx, hsat⟩, hs⟩, fun ⟨⟨hx, hsat⟩, hs⟩ => ⟨hx, hsat, hs⟩⟩

theorem feasible_point (he : e.WellNamed) (hx : e.Feasible x) :
    e.standardForm.problem.Feasible (e.variableNames.map x ++ Assembly.gaps x e.constraints) :=
  (feasible_point_iff he).2 ⟨hx, rfl⟩

theorem exists_of_feasible_point (he : e.WellNamed) {point : List Rat}
    (h : e.standardForm.problem.Feasible point) :
    ∃ x, e.Feasible x ∧ point = e.variableNames.map x ++ Assembly.gaps x e.constraints := by
  obtain ⟨x, s, rfl⟩ :=
    Program.exists_of_feasible_problem e.rectangular_standardForm he.unknowns h
  obtain ⟨hx, rfl⟩ := (feasible_point_iff he).1 h
  exact ⟨x, hx, rfl⟩

end Model

end LinearProgram
