import LinearProgram.Proofs.StandardForm.Cells
import LinearProgram.Proofs.StandardForm.Session

/-!
# Filling the cells of a program

The program of an assembly comes about when arrays of zeros are changed one cell after the other:
term by term in the rows, slack by slack, and term by term in the costs (`Assembly.filled`). Terms
find their column by the name of the variable, and slacks by their place among the inequalities.

**Writes.** What the writes to one cell make of it does not depend on the others (`cell?_foldl`), so
it is enough to know which of all writes meet in a cell (`Assembly.changes_variable`,
`Assembly.changes_slack`, `Assembly.changes_bound`, `Assembly.changes_cost`). Every write hits a
cell that the arrays have (`Assembly.writes_inside`).

Main result: `Assembly.program_laidOut`, for the programs of all sessions.
-/

namespace LinearProgram

variable {α : Type}

/-! ## Writes -/

/-- A change of one cell. -/
structure Write (α : Type) where
  cell : Cell
  change : α → α

/-- The program with one cell changed. -/
def Write.apply (w : Write α) (p : Program α) : Program α :=
  match w.cell with
  | .entry row column => { p with matrix := p.matrix.modify row (·.modify column w.change) }
  | .bound row => { p with bounds := p.bounds.modify row w.change }
  | .cost column => { p with costs := p.costs.modify column w.change }

/-- The changes that one cell undergoes, in order. -/
def changes (writes : List (Write α)) (cell : Cell) : List (α → α) :=
  (writes.filter (·.cell = cell)).map (·.change)

section Writes

variable {w : Write α} {writes : List (Write α)} {p : Program α} {cell : Cell}

theorem changes_cons_self (writes : List (Write α)) (h : w.cell = cell) :
    changes (w :: writes) cell = w.change :: changes writes cell := by
  simp [changes, h]

theorem changes_cons_of_ne (writes : List (Write α)) (h : w.cell ≠ cell) :
    changes (w :: writes) cell = changes writes cell := by
  simp [changes, h]

theorem changes_append (writes later : List (Write α)) (cell : Cell) :
    changes (writes ++ later) cell = changes writes cell ++ changes later cell := by
  simp [changes]

theorem changes_eq_nil_iff : changes writes cell = [] ↔ ∀ w ∈ writes, w.cell ≠ cell := by
  simp [changes]

/-- A write changes its own cell and no other. -/
theorem Write.cell?_apply (w : Write α) (p : Program α) (cell : Cell) :
    (w.apply p).cell? cell =
      if w.cell = cell then (p.cell? cell).map w.change else p.cell? cell := by
  obtain ⟨target, change⟩ := w
  cases target with
  | entry row column =>
    cases cell with
    | entry i j =>
      rw [apply, Program.cell?, Program.cell?, List.getElem?_modify]
      by_cases hi : row = i
      · by_cases hj : column = j <;> cases p.matrix[i]? <;> simp [hi, hj]
      · cases p.matrix[i]? <;> simp [hi]
    | bound i | cost j => simp [apply, Program.cell?]
  | bound row =>
    cases cell with
    | bound i =>
      rw [apply, Program.cell?, Program.cell?, List.getElem?_modify]
      by_cases hi : row = i <;> simp [hi]
    | entry i j | cost j => simp [apply, Program.cell?]
  | cost column =>
    cases cell with
    | cost j =>
      rw [apply, Program.cell?, Program.cell?, List.getElem?_modify]
      by_cases hj : column = j <;> simp [hj]
    | entry i j | bound i => simp [apply, Program.cell?]

/-- **A run of writes.** A cell undergoes its own changes, whatever is written elsewhere. -/
theorem cell?_foldl (writes : List (Write α)) (p : Program α) (cell : Cell) :
    (writes.foldl (fun q w => w.apply q) p).cell? cell =
      (p.cell? cell).map fun v => (changes writes cell).foldl (fun v change => change v) v := by
  induction writes generalizing p with
  | nil => simp [changes]
  | cons w writes ih =>
    rw [List.foldl_cons, ih, Write.cell?_apply]
    by_cases h : w.cell = cell
    · rw [if_pos h, changes_cons_self writes h, Option.map_map]
      rfl
    · rw [if_neg h, changes_cons_of_ne writes h]

/-- Programs whose arrays have the same cells, and that agree in everything else. -/
structure SameShape (p p' : Program α) : Prop where
  rows : p.matrix.map List.length = p'.matrix.map List.length
  bounds : p.bounds.length = p'.bounds.length
  costs : p.costs.length = p'.costs.length
  direction : p.direction = p'.direction
  unknowns : p.unknowns = p'.unknowns
  slacks : p.slacks = p'.slacks

theorem Write.sameShape_apply (w : Write α) (p : Program α) : SameShape (w.apply p) p := by
  obtain ⟨cell, change⟩ := w
  cases cell with
  | entry row column =>
    refine ⟨?_, rfl, rfl, rfl, rfl, rfl⟩
    show (p.matrix.modify row (·.modify column change)).map List.length = _
    refine List.ext_getElem? fun i => ?_
    rw [List.getElem?_map, List.getElem?_modify, List.getElem?_map]
    cases p.matrix[i]? with
    | none => rfl
    | some entries => by_cases hi : row = i <;> simp [hi]
  | bound row => exact ⟨rfl, List.length_modify .., rfl, rfl, rfl, rfl⟩
  | cost column => exact ⟨rfl, rfl, List.length_modify .., rfl, rfl, rfl⟩

/-- Writes keep the shape. -/
theorem sameShape_foldl (writes : List (Write α)) (p : Program α) :
    SameShape (writes.foldl (fun q w => w.apply q) p) p := by
  induction writes generalizing p with
  | nil => exact ⟨rfl, rfl, rfl, rfl, rfl, rfl⟩
  | cons w writes ih =>
    have hrest := ih (w.apply p)
    have hfirst := w.sameShape_apply p
    exact ⟨hrest.rows.trans hfirst.rows, hrest.bounds.trans hfirst.bounds,
      hrest.costs.trans hfirst.costs, hrest.direction.trans hfirst.direction,
      hrest.unknowns.trans hfirst.unknowns, hrest.slacks.trans hfirst.slacks⟩

/-- Of writes that are made for one item after the other, a cell of the item at `i` undergoes those
for that item. -/
theorem changes_zipIdx {β : Type} {items : List β} {i : Nat} {item : β}
    {write : β × Nat → List (Write α)} (hitem : items[i]? = some item)
    (hne : ∀ other k, k ≠ i → changes (write (other, k)) cell = []) :
    changes (items.zipIdx.flatMap write) cell = changes (write (item, i)) cell := by
  have hnil (others : List β) (start : Nat) (hothers : i < start ∨ start + others.length ≤ i) :
      changes ((others.zipIdx start).flatMap write) cell = [] := by
    rw [changes_eq_nil_iff]
    intro w hw
    obtain ⟨⟨other, k⟩, hmem, hw⟩ := List.mem_flatMap.1 hw
    have hk := List.mem_zipIdx hmem
    exact changes_eq_nil_iff.1 (hne other k (by omega)) w hw
  have htake : (items.take i).length ≤ i := List.length_take_le i items
  rw [zipIdx_eq_append_cons hitem, List.flatMap_append, List.flatMap_cons, changes_append,
    changes_append, hnil _ 0 (Or.inr (by omega)), hnil _ (i + 1) (Or.inl (by omega)),
    List.nil_append, List.append_nil]

end Writes

namespace Assembly

/-! ## Filling in place -/

section Filling

variable {assembly : Assembly α} {objective : Objective α} {terms : List (Term α)} {w : Write α}
  {place : Nat → Cell} {i j q : Nat} {c : Constraint α} {name : Text}

/-- The writes of a sum: each term is added in the column of its variable. -/
def termWrites [Add α] (assembly : Assembly α) (place : Nat → Cell) (terms : List (Term α)) :
    List (Write α) :=
  terms.filterMap fun t => (assembly.column? t.name).map fun j => ⟨place j, (· + t.coefficient)⟩

/-- The writes of a constraint in its row: its sum, and then its constant. -/
def rowWrites [Add α] (assembly : Assembly α) (row : Constraint α × Nat) : List (Write α) :=
  assembly.termWrites (.entry row.2) row.1.terms ++ [⟨.bound row.2, fun _ => row.1.constant⟩]

/-- The write of the inequality at `q`, whose column lies behind the variables. -/
def slackWrites [One α] [Neg α] (assembly : Assembly α) :
    (Constraint α × Nat) × Nat → List (Write α)
  | ((c, row), q) => [⟨.entry row (assembly.declared.length + q),
      fun _ => if c.relation = .atMost then 1 else -1⟩]

/-- All writes, in order: the constraints, the slacks, and the objective. -/
def writes [One α] [Neg α] [Add α] (assembly : Assembly α) (objective : Objective α) :
    List (Write α) :=
  assembly.constraints.zipIdx.flatMap assembly.rowWrites ++
    (assembly.inequalityRows.zipIdx.flatMap assembly.slackWrites ++
      assembly.termWrites .cost objective.terms)

/-- The program before anything has been written: all of its arrays are zero. -/
def blank [Zero α] (assembly : Assembly α) (objective : Objective α) : Program α where
  matrix := List.replicate assembly.constraints.length
    (List.replicate (assembly.declared.length + assembly.inequalityRows.length) 0)
  bounds := List.replicate assembly.constraints.length 0
  costs := List.replicate (assembly.declared.length + assembly.inequalityRows.length) 0
  direction := objective.direction
  unknowns := assembly.declared
  slacks := assembly.inequalityRows.map fun row => slackName row.1.name

/-- The program after all writes. -/
def filled [Zero α] [One α] [Neg α] [Add α] (assembly : Assembly α) (objective : Objective α) :
    Program α :=
  (assembly.writes objective).foldl (fun p w => w.apply p) (assembly.blank objective)

/-! ### Where is written -/

theorem cell_of_mem_termWrites [Add α] (h : assembly.Indexed)
    (hw : w ∈ assembly.termWrites place terms) :
    ∃ j, j < assembly.declared.length ∧ w.cell = place j := by
  obtain ⟨t, -, ht⟩ := List.mem_filterMap.1 hw
  obtain ⟨j, hj, rfl⟩ := Option.map_eq_some_iff.1 ht
  exact ⟨j, (List.getElem?_eq_some_iff.1 (h.getElem?_of_column? hj)).1, rfl⟩

theorem cell_of_mem_rowWrites [Add α] (h : assembly.Indexed)
    (hw : w ∈ assembly.rowWrites (c, i)) :
    (∃ j, j < assembly.declared.length ∧ w.cell = .entry i j) ∨ w.cell = .bound i := by
  rcases List.mem_append.1 hw with hw | hw
  · exact Or.inl (cell_of_mem_termWrites h hw)
  · rw [List.mem_singleton.1 hw]
    exact Or.inr rfl

theorem cell_of_mem_slackWrites [One α] [Neg α] {slack : (Constraint α × Nat) × Nat}
    (hw : w ∈ assembly.slackWrites slack) :
    w.cell = .entry slack.1.2 (assembly.declared.length + slack.2) := by
  rw [List.mem_singleton.1 hw]

section Blank

variable [Zero α]

theorem cell?_blank_entry (hi : i < assembly.constraints.length)
    (hj : j < assembly.declared.length + assembly.inequalityRows.length) :
    (assembly.blank objective).cell? (.entry i j) = some 0 := by
  rw [Program.cell?, blank, List.getElem?_replicate_of_lt hi, Option.bind_some,
    List.getElem?_replicate_of_lt hj]

theorem cell?_blank_bound (hi : i < assembly.constraints.length) :
    (assembly.blank objective).cell? (.bound i) = some 0 :=
  List.getElem?_replicate_of_lt hi

theorem cell?_blank_cost (hj : j < assembly.declared.length + assembly.inequalityRows.length) :
    (assembly.blank objective).cell? (.cost j) = some 0 :=
  List.getElem?_replicate_of_lt hj

end Blank

/-- **No write falls outside the arrays.** -/
theorem writes_inside [Zero α] [One α] [Neg α] [Add α] (h : assembly.Indexed)
    (hw : w ∈ assembly.writes objective) :
    ((assembly.blank objective).cell? w.cell).isSome = true := by
  rcases List.mem_append.1 hw with hw | hw
  · obtain ⟨⟨c, i⟩, hrow, hw⟩ := List.mem_flatMap.1 hw
    have hi := (List.getElem?_eq_some_iff.1 (List.mem_zipIdx_iff_getElem?.1 hrow)).1
    rcases cell_of_mem_rowWrites h hw with ⟨j, hj, hcell⟩ | hcell
    · rw [hcell, cell?_blank_entry hi (by omega)]
      rfl
    · rw [hcell, cell?_blank_bound hi]
      rfl
  · rcases List.mem_append.1 hw with hw | hw
    · obtain ⟨⟨⟨c, i⟩, q⟩, hslack, hw⟩ := List.mem_flatMap.1 hw
      have hq := List.mem_zipIdx_iff_getElem?.1 hslack
      have hqlt := (List.getElem?_eq_some_iff.1 hq).1
      have hi := (List.getElem?_eq_some_iff.1 (getElem?_of_inequalityRows hq).1).1
      rw [cell_of_mem_slackWrites hw, cell?_blank_entry hi (by omega)]
      rfl
    · obtain ⟨j, hj, hcell⟩ := cell_of_mem_termWrites h hw
      rw [hcell, cell?_blank_cost (by omega)]
      rfl

/-! ### What is written -/

theorem changes_terms_eq_nil [Add α] (h : assembly.Indexed) {cell : Cell}
    (hcell : ∀ j, j < assembly.declared.length → place j ≠ cell) :
    changes (assembly.termWrites place terms) cell = [] := by
  rw [changes_eq_nil_iff]
  intro w hw
  obtain ⟨j, hj, heq⟩ := cell_of_mem_termWrites h hw
  rw [heq]
  exact hcell j hj

theorem changes_row_eq_nil [Add α] (h : assembly.Indexed) {cell : Cell}
    (hentry : ∀ j, j < assembly.declared.length → .entry i j ≠ cell) (hbound : .bound i ≠ cell) :
    changes (assembly.rowWrites (c, i)) cell = [] := by
  rw [changes_eq_nil_iff]
  intro w hw
  rcases cell_of_mem_rowWrites h hw with ⟨j, hj, heq⟩ | heq
  · rw [heq]
    exact hentry j hj
  · rw [heq]
    exact hbound

theorem changes_rows_eq_nil [Add α] (h : assembly.Indexed) {cell : Cell}
    (hentry : ∀ i j, j < assembly.declared.length → .entry i j ≠ cell)
    (hbound : ∀ i, .bound i ≠ cell) :
    changes (assembly.constraints.zipIdx.flatMap assembly.rowWrites) cell = [] := by
  rw [changes_eq_nil_iff]
  intro w hw
  obtain ⟨⟨c, i⟩, -, hw⟩ := List.mem_flatMap.1 hw
  exact changes_eq_nil_iff.1 (changes_row_eq_nil h (hentry i) (hbound i)) w hw

theorem changes_slacks_eq_nil [One α] [Neg α] {cell : Cell}
    (hcell : ∀ i q, .entry i (assembly.declared.length + q) ≠ cell) :
    changes (assembly.inequalityRows.zipIdx.flatMap assembly.slackWrites) cell = [] := by
  rw [changes_eq_nil_iff]
  intro w hw
  obtain ⟨slack, -, hw⟩ := List.mem_flatMap.1 hw
  rw [cell_of_mem_slackWrites hw]
  exact hcell slack.1.2 slack.2

/-- The column of a variable undergoes the additions of its coefficients. -/
theorem changes_termWrites [Add α] (h : assembly.Indexed) (hplace : Function.Injective place)
    (hj : assembly.declared[j]? = some name) :
    changes (assembly.termWrites place terms) (place j) =
      (occurrences terms name).map fun a v => v + a := by
  induction terms with
  | nil => rfl
  | cons t terms ih =>
    have hcolumn := h.column?_eq_some_iff.2 hj
    by_cases hname : t.name = name
    · subst hname
      have hwrites : assembly.termWrites place (t :: terms) =
          ⟨place j, (· + t.coefficient)⟩ :: assembly.termWrites place terms := by
        simp [termWrites, hcolumn]
      rw [hwrites, changes_cons_self _ rfl, ih, occurrences_cons_self, List.map_cons]
    · rw [occurrences_cons_of_ne hname, ← ih]
      cases hother : assembly.column? t.name with
      | none => simp [termWrites, hother]
      | some other =>
        have hne : place other ≠ place j := by
          intro heq
          rw [hplace heq] at hother
          have := (h.getElem?_of_column? hother).symm.trans hj
          exact hname (Option.some.inj this)
        have hwrites : assembly.termWrites place (t :: terms) =
            ⟨place other, (· + t.coefficient)⟩ :: assembly.termWrites place terms := by
          simp [termWrites, hother]
        rw [hwrites, changes_cons_of_ne _ hne]

section Changes

variable [One α] [Neg α] [Add α]

theorem changes_writes (assembly : Assembly α) (objective : Objective α) (cell : Cell) :
    changes (assembly.writes objective) cell =
      changes (assembly.constraints.zipIdx.flatMap assembly.rowWrites) cell ++
        (changes (assembly.inequalityRows.zipIdx.flatMap assembly.slackWrites) cell ++
          changes (assembly.termWrites .cost objective.terms) cell) := by
  rw [writes, changes_append, changes_append]

/-- A cell in the column of a variable undergoes the additions of its constraint. -/
theorem changes_variable (h : assembly.Indexed) (hi : assembly.constraints[i]? = some c)
    (hj : assembly.declared[j]? = some name) : changes (assembly.writes objective) (.entry i j) =
      (occurrences c.terms name).map fun a v => v + a := by
  have hlt := (List.getElem?_eq_some_iff.1 hj).1
  have hrow : changes (assembly.rowWrites (c, i)) (.entry i j) =
      (occurrences c.terms name).map fun a v => v + a := by
    rw [rowWrites, changes_append, changes_termWrites h (fun _ _ heq => (Cell.entry.inj heq).2) hj]
    simp [changes]
  have hother (d : Constraint α) (k : Nat) (hk : k ≠ i) :
      changes (assembly.rowWrites (d, k)) (.entry i j) = [] :=
    changes_row_eq_nil h (by simp [hk]) (by simp)
  have hslacks (k q : Nat) : Cell.entry k (assembly.declared.length + q) ≠ .entry i j := by
    intro heq
    have := (Cell.entry.inj heq).2
    omega
  rw [changes_writes, changes_zipIdx hi hother, hrow, changes_slacks_eq_nil hslacks,
    changes_terms_eq_nil h (by simp), List.append_nil, List.append_nil]

/-- A cell in the column of a slack is written once, in the row of its inequality. -/
theorem changes_slack (h : assembly.Indexed) (hq : assembly.inequalityRows[q]? = some (c, i))
    (row : Nat) :
    changes (assembly.writes objective) (.entry row (assembly.declared.length + q)) =
      if row = i then [fun _ => if c.relation = .atMost then 1 else -1] else [] := by
  have hrows (k j : Nat) (hj : j < assembly.declared.length) :
      Cell.entry k j ≠ .entry row (assembly.declared.length + q) := by
    intro heq
    have := (Cell.entry.inj heq).2
    omega
  have hslack : changes (assembly.slackWrites ((c, i), q))
      (.entry row (assembly.declared.length + q)) =
        if row = i then [fun _ => if c.relation = .atMost then 1 else -1] else [] := by
    by_cases hrow : row = i
    · simp [slackWrites, changes, hrow]
    · simp [slackWrites, changes, hrow, Ne.symm hrow]
  have hother (slack : Constraint α × Nat) (k : Nat) (hk : k ≠ q) :
      changes (assembly.slackWrites (slack, k)) (.entry row (assembly.declared.length + q)) =
        [] := by
    simp [slackWrites, changes, hk]
  rw [changes_writes, changes_rows_eq_nil h hrows (by simp), changes_zipIdx hq hother, hslack,
    changes_terms_eq_nil h (by simp), List.append_nil, List.nil_append]

/-- A bound is written once. -/
theorem changes_bound (h : assembly.Indexed) (hi : assembly.constraints[i]? = some c) :
    changes (assembly.writes objective) (.bound i) = [fun _ => c.constant] := by
  have hrow : changes (assembly.rowWrites (c, i)) (.bound i) = [fun _ => c.constant] := by
    rw [rowWrites, changes_append, changes_terms_eq_nil h (by simp)]
    simp [changes]
  have hother (d : Constraint α) (k : Nat) (hk : k ≠ i) :
      changes (assembly.rowWrites (d, k)) (.bound i) = [] :=
    changes_row_eq_nil h (by simp) (by simp [hk])
  rw [changes_writes, changes_zipIdx hi hother, hrow, changes_slacks_eq_nil (by simp),
    changes_terms_eq_nil h (by simp), List.append_nil, List.append_nil]

/-- The costs undergo the additions of the objective and nothing else. -/
theorem changes_cost (h : assembly.Indexed) (j : Nat) :
    changes (assembly.writes objective) (.cost j) =
      changes (assembly.termWrites .cost objective.terms) (.cost j) := by
  rw [changes_writes, changes_rows_eq_nil h (by simp) (by simp), changes_slacks_eq_nil (by simp),
    List.nil_append, List.nil_append]

end Changes

/-! ### What comes out -/

/-- Adding coefficients one after the other makes their sum. -/
theorem foldl_additions [Zero α] [Add α] (terms : List (Term α)) (name : Text) :
    ((occurrences terms name).map fun a v => v + a).foldl (fun v change => change v) 0 =
      columnSum 0 terms name := by
  rw [List.foldl_map]
  rfl

variable [Zero α] [One α] [Neg α] [Add α]

theorem cell?_filled (assembly : Assembly α) (objective : Objective α) (cell : Cell) :
    (assembly.filled objective).cell? cell = ((assembly.blank objective).cell? cell).map fun v =>
      (changes (assembly.writes objective) cell).foldl (fun v change => change v) v :=
  cell?_foldl _ _ cell

/-- **Filling makes the layout.** -/
theorem laidOut_filled (h : assembly.Indexed) (objective : Objective α) :
    LaidOut assembly objective (assembly.filled objective) := by
  have hshape : SameShape (assembly.filled objective) (assembly.blank objective) :=
    sameShape_foldl _ _
  have hrows := hshape.rows
  rw [blank, List.map_replicate, List.length_replicate] at hrows
  have hslackEntry (q : Nat) (c : Constraint α) (i : Nat)
      (hq : assembly.inequalityRows[q]? = some (c, i)) (row : Nat)
      (hrow : row < assembly.constraints.length) :
      (assembly.filled objective).cell? (.entry row (assembly.declared.length + q)) =
        some (if row = i then if c.relation = .atMost then 1 else -1 else 0) := by
    have hlt := (List.getElem?_eq_some_iff.1 hq).1
    rw [cell?_filled, cell?_blank_entry hrow (by omega), changes_slack h hq]
    by_cases hi : row = i <;> simp [hi]
  exact {
    direction := hshape.direction
    unknowns := hshape.unknowns
    slacks := hshape.slacks
    columns_length := by
      rw [Program.columns, hshape.unknowns, hshape.slacks]
      simp [blank]
    rows := by simpa using congrArg List.length hrows
    row_length := fun row hmem => by
      have : row.length ∈ (assembly.filled objective).matrix.map List.length :=
        List.mem_map_of_mem hmem
      rw [hrows] at this
      exact List.eq_of_mem_replicate this
    bounds_length := by simpa [blank] using hshape.bounds
    costs_length := by simpa [blank] using hshape.costs
    variable_entry := fun i c hi j name hj => by
      have hlt := (List.getElem?_eq_some_iff.1 hi).1
      have hjlt := (List.getElem?_eq_some_iff.1 hj).1
      rw [cell?_filled, cell?_blank_entry hlt (by omega), changes_variable h hi hj,
        Option.map_some, foldl_additions]
    variable_cost := fun j name hj => by
      have hjlt := (List.getElem?_eq_some_iff.1 hj).1
      rw [cell?_filled, cell?_blank_cost (by omega), changes_cost h,
        changes_termWrites h (fun _ _ => Cell.cost.inj) hj, Option.map_some, foldl_additions]
    slack_entry := fun q c i hq => by
      have hi := (List.getElem?_eq_some_iff.1 (getElem?_of_inequalityRows hq).1).1
      rw [hslackEntry q c i hq i hi, if_pos rfl]
    slack_entry_of_ne := fun q c i hq other hother hne => by
      rw [hslackEntry q c i hq other hother, if_neg hne]
    equation_entry := fun i c hi hc q hq => by
      obtain ⟨⟨d, row⟩, hd⟩ : ∃ slack, assembly.inequalityRows[q]? = some slack :=
        ⟨_, List.getElem?_eq_getElem hq⟩
      have hne : i ≠ row := by
        rintro rfl
        obtain ⟨hrow, hrelation⟩ := getElem?_of_inequalityRows hd
        rw [hi, Option.some.injEq] at hrow
        exact hrelation (hrow ▸ hc)
      rw [hslackEntry q d row hd i (List.getElem?_eq_some_iff.1 hi).1, if_neg hne]
    slack_cost := fun q hq => by
      have hterms : changes (assembly.termWrites .cost objective.terms)
          (.cost (assembly.declared.length + q)) = [] :=
        changes_terms_eq_nil h fun j hj heq => by
          have := Cell.cost.inj heq
          omega
      rw [cell?_filled, cell?_blank_cost (by omega), changes_cost h, hterms]
      rfl
    bound := fun i c hi => by
      have hlt := (List.getElem?_eq_some_iff.1 hi).1
      rw [cell?_filled, cell?_blank_bound hlt, changes_bound h hi]
      rfl }

end Filling

/-! ## Programs of sessions -/

variable [Zero α] [One α] [Neg α] [Add α]

/-- **The cells of a program.** After any session, a program that can be finished has the layout of
what has been accepted. It is made by writing into arrays of zeros, and no write falls outside. -/
theorem program_laidOut (calls : List (Call α)) {p : Program α} {after : Assembly α}
    (h : finish (assembler.afterCalls {} calls) = .ok p after) :
    ∃ objective, (assembler.afterCalls {} calls).objective = some objective ∧
      LaidOut (assembler.afterCalls {} calls) objective p ∧
      p = (assembler.afterCalls {} calls).filled objective ∧
      ∀ w ∈ (assembler.afterCalls {} calls).writes objective,
        (((assembler.afterCalls {} calls).blank objective).cell? w.cell).isSome = true := by
  have hindexed := (recorded_afterCalls calls).indexed
  obtain ⟨hprogram, -⟩ := finish_eq_ok_iff.1 h
  obtain ⟨objective, hobjective, -, -, rfl⟩ := (program_eq_ok_iff hindexed).1 hprogram
  have hlaid := laidOut_layout (assembler.afterCalls {} calls) objective
  exact ⟨objective, hobjective, hlaid, hlaid.unique (laidOut_filled hindexed objective),
    fun w hw => writes_inside hindexed hw⟩

/-- A session with failures on the way, a name that a sum repeats, and an equation between two
inequalities. -/
def unevenSession : List (Call Int) :=
  [.declare ⟨['x'], 0⟩, .require ⟨['l', 'o'], [⟨['x'], 1⟩, ⟨['y'], 1⟩, ⟨['x'], 1⟩], 1, .atLeast⟩,
    .finish, .declare ⟨['y'], 0⟩, .declare ⟨['x'], 0⟩,
    .require ⟨['e', 'q'], [⟨['x'], 1⟩], 2, .equal⟩,
    .target ⟨['f'], [⟨['y'], 3⟩, ⟨['x'], 1⟩, ⟨['y'], 1⟩], .minimize⟩,
    .require ⟨['h', 'i'], [⟨['y'], 2⟩], 7, .atMost⟩]

/-- The program of this session. -/
def unevenProgram : Program Int where
  matrix := [[2, 1, -1, 0], [1, 0, 0, 0], [0, 2, 0, 1]]
  bounds := [1, 2, 7]
  costs := [1, 4, 0, 0]
  direction := .minimize
  unknowns := [['x'], ['y']]
  slacks := [slackName ['l', 'o'], slackName ['h', 'i']]

theorem program_laidOut_uneven :
    finish (assembler.afterCalls {} unevenSession) =
        .ok unevenProgram (assembler.afterCalls {} unevenSession) ∧
      ∃ objective, (assembler.afterCalls {} unevenSession).objective = some objective ∧
        LaidOut (assembler.afterCalls {} unevenSession) objective unevenProgram ∧
        unevenProgram = (assembler.afterCalls {} unevenSession).filled objective ∧
        ∀ w ∈ (assembler.afterCalls {} unevenSession).writes objective,
          (((assembler.afterCalls {} unevenSession).blank objective).cell? w.cell).isSome =
            true := by
  have h : finish (assembler.afterCalls {} unevenSession) =
      .ok unevenProgram (assembler.afterCalls {} unevenSession) := by rfl
  exact ⟨h, program_laidOut unevenSession h⟩

end Assembly

end LinearProgram
