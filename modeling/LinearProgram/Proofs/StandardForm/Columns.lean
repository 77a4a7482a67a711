import LinearProgram.Proofs.Notation.Names
import LinearProgram.Proofs.StandardForm.Cells
import LinearProgram.Proofs.StandardForm.Feeding
import LinearProgram.Solver.Solution

/-!
# The columns of the programs of documents

What the names in a document say about the columns of its program.

**Distinct names** (`Document.columns_distinct_iff`). Variables have distinct names, and so have
slacks, since constraints do. But nothing keeps a variable from being called as the slack of a
constraint, and then two columns have one name (`Document.not_forall_columns_distinct`).

**Guaranteed columns** (`Document.accepted_guarantees`). An objective has a term and its variable is
declared, so a program always has a column. The variables that no sum can use, because `var` stands
in their names, have columns of zeros.
-/

namespace LinearProgram

/-- A result with a property can be computed. -/
theorem exists_of_toOption_any {ε β : Type} {result : Except ε β} {property : β → Bool}
    (h : result.toOption.any property = true) :
    ∃ value, result = .ok value ∧ property value = true := by
  cases result with
  | error fault => simp [Except.toOption] at h
  | ok value => exact ⟨value, rfl, h⟩

namespace Assembly

theorem slackName_injective : Function.Injective slackName := fun _ _ => List.append_cancel_left

section Columns

variable {α : Type} [Zero α] [One α] [Neg α] [Add α] {assembly : Assembly α}
  {objective : Objective α} {p : Program α} {j : Nat} {name : Text}

/-- The column of a variable that no sum uses. -/
theorem LaidOut.column_eq_zero (h : LaidOut assembly objective p)
    (hj : assembly.declared[j]? = some name)
    (hrows : ∀ c ∈ assembly.constraints, ∀ t ∈ c.terms, t.name ≠ name)
    (hcosts : ∀ t ∈ objective.terms, t.name ≠ name) :
    (∀ row ∈ p.matrix, row[j]? = some 0) ∧ p.costs[j]? = some 0 := by
  have hsum (terms : List (Term α)) (hterms : ∀ t ∈ terms, t.name ≠ name) :
      columnSum 0 terms name = 0 := by
    have : occurrences terms name = [] := by simpa [occurrences] using hterms
    rw [columnSum, this, List.foldl_nil]
  refine ⟨fun row hrow => ?_, ?_⟩
  · obtain ⟨i, hi, rfl⟩ := List.mem_iff_getElem.1 hrow
    have hlt : i < assembly.constraints.length := h.rows ▸ hi
    have hentry := h.variable_entry i _ (List.getElem?_eq_getElem hlt) j name hj
    rw [hsum _ (hrows _ (List.getElem_mem hlt))] at hentry
    simpa [Program.cell?, List.getElem?_eq_getElem hi] using hentry
  · rw [← hsum _ hcosts]
    exact h.variable_cost j name hj

end Columns

end Assembly

namespace Model

variable {α : Type} [Zero α] [One α] [Neg α] [Add α] {m : Model α}

theorem nodup_slacks (h : m.WellNamed) : m.standardForm.slacks.Nodup := by
  have hnames : (m.assembled.inequalities.map (·.name)).Nodup :=
    h.constraints.sublist (List.filter_sublist.map _)
  have := hnames.map Assembly.slackName_injective
  rwa [List.map_map] at this

/-- Columns have distinct names when no variable is called as the slack of an inequality. -/
theorem columns_nodup_iff (h : m.WellNamed) : m.standardForm.columns.Nodup ↔
    ∀ c ∈ m.constraints, c.relation ≠ .equal → Assembly.slackName c.name ∉ m.variableNames := by
  have hslack {name : Text} : name ∈ m.standardForm.slacks ↔
      ∃ c ∈ m.constraints, c.relation ≠ .equal ∧ Assembly.slackName c.name = name := by
    simp [standardForm, Assembly.layout, Assembly.inequalities, assembled, and_assoc]
  have hunknowns : m.standardForm.unknowns = m.variableNames := rfl
  rw [Program.columns, List.nodup_append, hunknowns]
  constructor
  · rintro ⟨-, -, hne⟩ c hc hrelation hmem
    exact hne _ hmem _ (hslack.2 ⟨c, hc, hrelation, rfl⟩) rfl
  · intro hfree
    refine ⟨h.unknowns, nodup_slacks h, ?_⟩
    rintro name hname _ hmem rfl
    obtain ⟨c, hc, hrelation, rfl⟩ := hslack.1 hmem
    exact hfree c hc hrelation hname

end Model

namespace Document

variable {policy : Policy} {text : Text} {p : Program Number}

/-! ## Distinct names -/

/-- **Names of columns.** A name is used twice only when a variable is called as the slack of an
inequality. -/
theorem columns_distinct_iff (hp : program policy text = .ok p) :
    ∃ m, read policy text = .ok m ∧ p.unknowns.Nodup ∧ p.slacks.Nodup ∧
      (p.columns.Nodup ↔ ∀ c ∈ m.constraints, c.relation ≠ .equal →
        Assembly.slackName c.name ∉ m.variableNames) := by
  obtain ⟨m, hm, hprogram⟩ := program_eq_ok_iff.1 hp
  obtain ⟨hnamed, rfl⟩ := Model.program_eq_ok_iff.1 hprogram
  exact ⟨m, hm, hnamed.unknowns, Model.nodup_slacks hnamed, Model.columns_nodup_iff hnamed⟩

/-- A variable that is called as the slack of the constraint. -/
def slackVariable : Text :=
  "var slack_c; maximize f: slack_c; subject to c: slack_c <= 1;".toList

theorem columns_of_slackVariable : ∃ p, program {} slackVariable = .ok p ∧
    p.columns = ["slack_c".toList, "slack_c".toList] := by
  have h : (program {} slackVariable).toOption.any
      (fun p => p.columns = ["slack_c".toList, "slack_c".toList]) := by decide +kernel
  obtain ⟨p, hp, hcolumns⟩ := exists_of_toOption_any h
  exact ⟨p, hp, of_decide_eq_true hcolumns⟩

theorem columns_distinct_iff_slackVariable :
    ∃ p m, program {} slackVariable = .ok p ∧ read {} slackVariable = .ok m ∧
      p.unknowns.Nodup ∧ p.slacks.Nodup ∧ ¬p.columns.Nodup ∧
      ∃ c ∈ m.constraints, c.relation ≠ .equal ∧ Assembly.slackName c.name ∈ m.variableNames := by
  obtain ⟨p, hp, hcolumns⟩ := columns_of_slackVariable
  obtain ⟨m, hm, hunknowns, hslacks, hiff⟩ := columns_distinct_iff hp
  have hrepeated : ¬p.columns.Nodup := by rw [hcolumns]; decide
  refine ⟨p, m, hp, hm, hunknowns, hslacks, hrepeated, ?_⟩
  simpa using mt hiff.2 hrepeated

/-- Programs of documents can have two columns of one name. -/
theorem not_forall_columns_distinct :
    ¬∀ policy text p, program policy text = .ok p → p.columns.Nodup := by
  intro h
  obtain ⟨p, hp, hcolumns⟩ := columns_of_slackVariable
  have := h {} slackVariable p hp
  rw [hcolumns] at this
  exact absurd this (by decide)

/-! ## Guaranteed columns -/

theorem unknowns_ne_nil (hp : program policy text = .ok p) : p.unknowns ≠ [] := by
  obtain ⟨m, hm, hprogram⟩ := program_eq_ok_iff.1 hp
  obtain ⟨hnamed, rfl⟩ := Model.program_eq_ok_iff.1 hprogram
  obtain ⟨t, ht⟩ := List.exists_mem_of_ne_nil _ (expressible_of_read hm).objective.1
  exact List.ne_nil_of_mem (hnamed.costs t ht)

/-- **What every accepted document guarantees.** Its model is one that documents can express. Its
program has a column, so it is never refused for having none, and the column of a variable is zero
throughout when `var` stands in the name of the variable. -/
theorem accepted_guarantees (policy : Policy) (text : Text) :
    (∀ m, read policy text = .ok m → m.Expressible) ∧
      ∀ p : Program Number, program policy text = .ok p →
        p.unknowns ≠ [] ∧ p.exact ≠ .error .noColumns ∧
        ∀ (j : Nat) name, p.unknowns[j]? = some name → Statement.varKeyword <:+: name →
          (∀ row ∈ p.matrix, row[j]? = some 0) ∧ p.costs[j]? = some 0 := by
  refine ⟨fun m hm => expressible_of_read hm, fun p hp => ⟨unknowns_ne_nil hp, ?_, ?_⟩⟩
  · have hcolumns : p.columnCount ≠ 0 := by
      have := List.length_pos_iff.2 (unknowns_ne_nil hp)
      rw [Program.columnCount, Program.columns, List.length_append]
      omega
    rw [Program.exact, if_neg hcolumns]
    split
    · simp
    · split
      · simp
      · split <;> simp
  · intro j name hj hvar
    obtain ⟨m, hm, hprogram⟩ := program_eq_ok_iff.1 hp
    obtain ⟨-, rfl⟩ := Model.program_eq_ok_iff.1 hprogram
    have hexpressible := expressible_of_read hm
    refine (Assembly.laidOut_layout m.assembled m.objective).column_eq_zero hj
      (fun c hc t ht => ?_) fun t ht => ?_
    · rintro rfl
      have hname : t.name ∈ c.names := List.mem_cons_of_mem _ (List.mem_map_of_mem ht)
      exact ((hexpressible.constraints c hc).2 _ hname).2.1 hvar
    · rintro rfl
      have hname : t.name ∈ m.objective.names := List.mem_cons_of_mem _ (List.mem_map_of_mem ht)
      exact (hexpressible.objective.2 _ hname).2 hvar

/-- A document with a variable that no sum can use. -/
def unusableVariable : Text :=
  "var x; var variance; minimize f: 2*x; subject to c: x >= 1".toList

theorem accepted_guarantees_unusableVariable :
    ∃ m p, read {} unusableVariable = .ok m ∧ program {} unusableVariable = .ok p ∧
      m.Expressible ∧ p.unknowns = ["x".toList, "variance".toList] ∧
      p.exact ≠ .error .noColumns ∧ (∀ row ∈ p.matrix, row[1]? = some 0) ∧
      p.costs[1]? = some 0 := by
  have h : (program {} unusableVariable).toOption.any
      (fun p => p.unknowns = ["x".toList, "variance".toList]) := by decide +kernel
  obtain ⟨p, hp, hnames⟩ := exists_of_toOption_any h
  have hunknowns : p.unknowns = ["x".toList, "variance".toList] := of_decide_eq_true hnames
  obtain ⟨m, hm, -⟩ := program_eq_ok_iff.1 hp
  obtain ⟨hmodel, hprogram⟩ := accepted_guarantees {} unusableVariable
  obtain ⟨-, hexact, hzero⟩ := hprogram p hp
  have hcolumn := hzero 1 "variance".toList (by rw [hunknowns]; rfl) (by decide +kernel)
  exact ⟨m, p, hm, hp, hmodel m hm, hunknowns, hexact, hcolumn⟩

end Document

end LinearProgram
