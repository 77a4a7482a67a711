import LinearProgram.Proofs.Solver.Point

/-!
# Solutions say what the solver has found

Of a solver only that its answers are right is assumed (`Solver.Correct`). What becomes of an
answer on the way back is then right for the model: signs are undone where the model maximises, the
slacks are cut off, and no value is lost where values are entered by name, since names are
distinct.

Main result: `Model.solveNamed_faithful`.
-/

namespace LinearProgram

/-! ## Values by name -/

/-- Nothing is replaced where names are distinct. -/
theorem foldl_enterValue {β : Type} {pairs entries : List (Text × β)}
    (h : ((entries ++ pairs).map (·.1)).Nodup) :
    pairs.foldl enterValue entries = entries ++ pairs := by
  induction pairs generalizing entries with
  | nil => simp
  | cons pair pairs ih =>
    have hnew : ∀ entry ∈ entries, entry.1 ≠ pair.1 := by
      intro entry hentry heq
      rw [List.map_append, List.nodup_append] at h
      exact h.2.2 entry.1 (List.mem_map_of_mem hentry) pair.1 (by simp) heq
    have henter : enterValue entries pair = entries ++ [pair] := by
      rw [enterValue, if_neg]
      simpa using fun value hmem => hnew (pair.1, value) hmem rfl
    rw [List.foldl_cons, henter, ih (by simpa using h), List.append_assoc, List.singleton_append]

theorem zip_map_append {β : Type} (names : List Text) (x : Text → β) (s : List β) :
    names.zip (names.map x ++ s) = names.map fun name => (name, x name) := by
  induction names with
  | nil => rfl
  | cons name names ih => simp [ih]

/-- Every name has its own value, in order. -/
theorem valuesByName_zip {β : Type} {names : List Text} (hnodup : names.Nodup) (x : Text → β)
    (s : List β) :
    valuesByName (names.zip (names.map x ++ s)) = names.map fun name => (name, x name) := by
  rw [zip_map_append, valuesByName, foldl_enterValue]
  · rfl
  · simpa [Function.comp_def] using hnodup

/-! ## Programs in exact numbers -/

namespace Program

theorem exactly?_rat (values : List Rat) : exactly? values = some values := by
  rw [exactly?, mapM_eq_some_iff]
  exact List.forall₂_same.2 fun v _ => rfl

theorem exact_rat {q : Program Rat} :
    q.exact = if q.columnCount = 0 then .error .noColumns else .ok q := by
  have hmatrix : q.matrix.mapM exactly? = some q.matrix :=
    mapM_eq_some_iff.2 (List.forall₂_same.2 fun row _ => exactly?_rat row)
  rw [exact, exactly?_rat, hmatrix, exactly?_rat]

/-- A rounded program is handed over as the exact program that it reads as. -/
theorem ReadsAs.exact_eq {p : Program Number} {q : Program Rat} (h : p.ReadsAs q) :
    p.exact = q.exact := by
  have hcount : p.columnCount = q.columnCount := by
    rw [columnCount, columns, h.unknowns, h.slacks, columnCount, columns]
  rw [exact_rat, exact, hcount, h.costs, h.matrix, h.bounds, h.direction, h.unknowns, h.slacks]

theorem ReadsAs.solveNamed_eq {p : Program Number} {q : Program Rat} (h : p.ReadsAs q)
    (solver : Solver) (name : Text) : p.solveNamed solver name = q.solveNamed solver name := by
  simp only [solveNamed, solve, h.exact_eq]

/-- What a program in exact numbers is solved to: without columns there is nothing to ask. -/
theorem value_solveNamed {q : Program Rat} {solver : Solver} {name : Text} {method : Method}
    (hname : Method.ofLabel? name = some method) : (q.solveNamed solver name).value = .ok
      (if q.columnCount = 0 then .failure InputFault.noColumns.report
        else q.solutionOf (solver method q.problem)) := by
  rw [solveNamed, hname]
  show Except.ok (q.solve solver method).value = _
  rw [solve, exact_rat]
  by_cases h : q.columnCount = 0
  · simp only [if_pos h]
  · simp only [if_neg h]
    rfl

theorem solved_solutionOf_iff {q : Program Rat} {verdict : Verdict} :
    (q.solutionOf verdict).solved = true ↔ ∃ point steps, verdict = .optimal point steps := by
  cases verdict <;> simp [solutionOf, Solution.failure]

end Program

/-! ## Answers -/

namespace Model

variable {e : Model Rat}

theorem dot_minimizedCosts_le_iff (he : e.WellNamed) {x y : Text → Rat} {s s' : List Rat} :
    dot e.standardForm.minimizedCosts (e.variableNames.map x ++ s) ≤
        dot e.standardForm.minimizedCosts (e.variableNames.map y ++ s') ↔
      e.objective.direction.Prefers (e.objective.value x) (e.objective.value y) := by
  rw [Program.dot_minimizedCosts_le_iff, dot_costs he, dot_costs he]
  rfl

/-- A best point is an optimal assignment, followed by slacks. -/
theorem exists_optimal_of_correct (he : e.WellNamed) {point : List Rat} {steps : Nat}
    (h : (Verdict.optimal point steps).Correct e.standardForm.problem) :
    ∃ x, e.Optimal x ∧ point = e.variableNames.map x ++ Assembly.gaps x e.constraints := by
  obtain ⟨hpoint, hleast⟩ := h
  obtain ⟨x, hx, rfl⟩ := exists_of_feasible_point he hpoint
  refine ⟨x, ⟨hx, fun y hy => ?_⟩, rfl⟩
  exact (dot_minimizedCosts_le_iff he).1 (hleast _ (feasible_point he hy))

theorem not_feasible_of_correct (he : e.WellNamed)
    (h : Verdict.infeasible.Correct e.standardForm.problem) (x : Text → Rat) : ¬e.Feasible x :=
  fun hx => h _ (feasible_point he hx)

/-- Costs without a lower bound are values that are better than any given one. -/
theorem exists_prefers_of_correct (he : e.WellNamed)
    (h : Verdict.unbounded.Correct e.standardForm.problem) (bound : Rat) :
    ∃ x, e.Feasible x ∧ e.objective.direction.Prefers (e.objective.value x) bound := by
  obtain ⟨limit, hlimit⟩ := e.standardForm.exists_limit_prefers bound
  obtain ⟨point, hpoint, hlt⟩ := h limit
  obtain ⟨x, hx, rfl⟩ := exists_of_feasible_point he hpoint
  refine ⟨x, hx, ?_⟩
  have hprefers := hlimit _ hlt
  rwa [dot_costs he] at hprefers

end Model

/-! ## Solutions -/

/-- A solution that is right for a model. When there is one, it names the values of an optimal
assignment; when there is none, nothing is made up, and a reason that is given is true. -/
structure Solution.Faithful (solution : Solution Rat) (e : Model Rat) : Prop where
  success : solution.solved = true → ∃ x point, e.Optimal x ∧
    solution.values = e.variableNames.map (fun name => (name, x name)) ∧
    solution.point = some point ∧ point.length = e.standardForm.columnCount ∧
    point.take e.variableNames.length = solution.values.map (·.2) ∧
    solution.objective = some (e.objective.value x)
  failure : solution.solved = false → solution.point = none ∧ solution.values = [] ∧
    solution.rounded.objectiveNumber = .undefined
  infeasible : solution.solved = false → solution.message = Verdict.infeasible.message →
    ∀ x, ¬e.Feasible x
  unbounded : solution.solved = false → solution.message = Verdict.unbounded.message →
    ∀ bound, ∃ x, e.Feasible x ∧ e.objective.direction.Prefers (e.objective.value x) bound

namespace Model

variable {e : Model Rat}

/-- A failure is right when its reason is. -/
theorem faithful_failure {message : String}
    (hinfeasible : message = Verdict.infeasible.message → ∀ x, ¬e.Feasible x)
    (hunbounded : message = Verdict.unbounded.message → ∀ bound, ∃ x, e.Feasible x ∧
      e.objective.direction.Prefers (e.objective.value x) bound) :
    (Solution.failure message).Faithful e where
  success h := absurd h Bool.false_ne_true
  failure _ := ⟨rfl, rfl, rfl⟩
  infeasible _ := hinfeasible
  unbounded _ := hunbounded

/-- A right answer leads to a right solution. -/
theorem faithful_solutionOf (he : e.WellNamed) {verdict : Verdict}
    (h : verdict.Correct e.standardForm.problem) :
    (e.standardForm.solutionOf verdict).Faithful e := by
  have hdistinct : Verdict.infeasible.message ≠ Verdict.unbounded.message := by decide
  cases verdict with
  | optimal point steps =>
    obtain ⟨x, hx, rfl⟩ := exists_optimal_of_correct he h
    have hvalues : (e.standardForm.solutionOf (.optimal _ steps)).values =
        e.variableNames.map fun name => (name, x name) :=
      valuesByName_zip he.unknowns x (Assembly.gaps x e.constraints)
    have hsolved : (e.standardForm.solutionOf (.optimal (e.variableNames.map x ++
        Assembly.gaps x e.constraints) steps)).solved ≠ false := Bool.false_ne_true.symm
    refine ⟨fun _ => ⟨x, _, hx, hvalues, rfl, ?_, ?_, ?_⟩, fun hs => absurd hs hsolved,
      fun hs => absurd hs hsolved, fun hs => absurd hs hsolved⟩
    · rw [h.1.1, Program.columnCount, Program.columns, List.length_append]
      exact Program.length_minimizedCosts e.rectangular_standardForm
    · rw [hvalues, List.map_map, List.take_left' (List.length_map _)]
      rfl
    · exact congrArg some (dot_costs he)
  | infeasible =>
    exact faithful_failure (fun _ => not_feasible_of_correct he h)
      fun hmessage => absurd hmessage hdistinct
  | unbounded =>
    exact faithful_failure (fun hmessage => absurd hmessage.symm hdistinct)
      fun _ => exists_prefers_of_correct he h
  | undecided =>
    have hinfeasible : Verdict.undecided.message ≠ Verdict.infeasible.message := by decide
    have hunbounded : Verdict.undecided.message ≠ Verdict.unbounded.message := by decide
    exact faithful_failure (fun hmessage => absurd hmessage hinfeasible)
      fun hmessage => absurd hmessage hunbounded

/-- **Solving is faithful to the model.** -/
theorem solveNamed_faithful {solver : Solver} (hsolver : solver.Correct) {m : Model Number}
    {p : Program Number} (hp : m.program = .ok p) (he : m.rational? = some e) {name : Text}
    {method : Method} (hname : Method.ofLabel? name = some method) :
    ∃ q solution, e.program = .ok q ∧ (q.solveNamed solver name).value = .ok solution ∧
      (m.AddsExactly → p.solveNamed solver name = q.solveNamed solver name) ∧
      (solution.solved = true ↔
        q.columns ≠ [] ∧ ∃ point steps, solver method q.problem = .optimal point steps) ∧
      e.variableNames = m.variableNames ∧ m.variableNames.Nodup ∧ solution.Faithful e := by
  obtain ⟨hnamed, rfl⟩ := program_eq_ok_iff.1 hp
  have hexact := hnamed.exact he
  refine ⟨e.standardForm, _, program_eq_ok_iff.2 ⟨hexact, rfl⟩,
    Program.value_solveNamed hname,
    fun hadds => (readsAs_of_addsExactly he hadds).solveNamed_eq solver name, ?_,
    variableNames_exact he, hnamed.unknowns, ?_⟩
  · rw [← List.length_pos_iff]
    show _ ↔ 0 < e.standardForm.columnCount ∧ _
    split
    next h => simp [h, Solution.failure]
    next h => rw [Program.solved_solutionOf_iff, and_iff_right (Nat.pos_of_ne_zero h)]
  · split
    next =>
      have hinfeasible : InputFault.noColumns.report ≠ Verdict.infeasible.message := by decide
      have hunbounded : InputFault.noColumns.report ≠ Verdict.unbounded.message := by decide
      exact faithful_failure (fun hmessage => absurd hmessage hinfeasible)
        fun hmessage => absurd hmessage hunbounded
    next => exact faithful_solutionOf hexact (hsolver method _)

/-- Two variables and two inequalities; the best assignment is `x = 4`, `y = 0`. -/
def bounded {α : Type} (number : Rat → α) : Model α :=
  let x := "x".toList
  let y := "y".toList
  ⟨[⟨x, number 0⟩, ⟨y, number 0⟩],
    [⟨"c1".toList, [⟨x, number 1⟩, ⟨y, number 1⟩], number 4, .atMost⟩,
      ⟨"c2".toList, [⟨x, number 1⟩], number 1, .atLeast⟩],
    ⟨"f".toList, [⟨x, number 3⟩, ⟨y, number 2⟩], .maximize⟩⟩

/-- The problem that it leads to. -/
def boundedProblem : Problem := ⟨[-3, -2, 0, 0], [⟨[1, 1, 1, 0], 4⟩, ⟨[1, 0, 0, -1], 1⟩]⟩

/-- A solver that knows the answer to this problem only. -/
def boundedSolver : Solver := fun _ problem =>
  if problem = boundedProblem then .optimal [4, 0, 0, 3] 1 else .undecided

theorem boundedSolver_correct : boundedSolver.Correct := by
  intro method problem
  rw [boundedSolver]
  split
  next h =>
    subst h
    refine ⟨by simp [Problem.Feasible, boundedProblem, dot]; norm_num, ?_⟩
    rintro x ⟨hlength, hnonneg, hequations⟩
    rcases x with _ | ⟨x, _ | ⟨y, _ | ⟨s, _ | ⟨t, _ | _⟩⟩⟩⟩ <;> simp [boundedProblem] at hlength
    simp only [boundedProblem, List.forall_mem_cons, dot] at hnonneg hequations ⊢
    linarith
  next => trivial

theorem solveNamed_faithful_of_bounded : ∃ q solution, (bounded id).program = .ok q ∧
    (q.solveNamed boundedSolver "highs".toList).value = .ok solution ∧ solution.solved = true ∧
    solution.Faithful (bounded id) := by
  have hread : (bounded Number.ofRat).rational? = some (bounded id) := by decide +kernel
  have hprogram : (bounded Number.ofRat).program = .ok (bounded Number.ofRat).standardForm := by
    decide +kernel
  have hname : Method.ofLabel? "highs".toList = some .automatic := by decide +kernel
  obtain ⟨q, solution, hq, hvalue, -, hsolved, -, -, hfaithful⟩ :=
    solveNamed_faithful boundedSolver_correct hprogram hread hname
  obtain rfl := (program_eq_ok_iff.1 hq).2
  have hproblem : (bounded id).standardForm.problem = boundedProblem := by decide +kernel
  have hanswer : boundedSolver .automatic (bounded id).standardForm.problem =
      .optimal [4, 0, 0, 3] 1 := by rw [boundedSolver, if_pos hproblem]
  exact ⟨_, solution, hq, hvalue,
    hsolved.2 ⟨by decide +kernel, [4, 0, 0, 3], 1, hanswer⟩, hfaithful⟩

end Model

end LinearProgram
