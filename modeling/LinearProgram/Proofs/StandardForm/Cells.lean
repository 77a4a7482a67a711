import LinearProgram.Proofs.StandardForm.Layout

/-!
# The cells of an assembled program

Which number stands in which cell of a program (`Assembly.LaidOut`): the sums of coefficients in the
columns of the variables, one entry for each inequality in the columns of the slacks, and zeros
everywhere else.

**Inequalities and their rows** (`Assembly.inequalityRows`). Slack columns are counted by inequality
and rows by constraint. The slack of a row stands in the column of its rank, which is the number of
inequalities above it (`inequalityRows_eq_some_iff`).

**One layout.** The layout of an assembly is as described (`Assembly.laidOut_layout`), and no other
program is (`Assembly.LaidOut.unique`).
-/

namespace LinearProgram

variable {α : Type}

/-! ## Cells -/

/-- A place in the arrays of a program. -/
inductive Cell where
  | entry (row column : Nat)
  | bound (row : Nat)
  | cost (column : Nat)
  deriving DecidableEq

/-- What stands in a cell, if the arrays have it. -/
def Program.cell? (p : Program α) : Cell → Option α
  | .entry row column => p.matrix[row]?.bind (·[column]?)
  | .bound row => p.bounds[row]?
  | .cost column => p.costs[column]?

/-- An item and its position divide the items with their positions. -/
theorem zipIdx_eq_append_cons {β : Type} {items : List β} {i : Nat} {item : β}
    (h : items[i]? = some item) :
    items.zipIdx = (items.take i).zipIdx ++ (item, i) :: (items.drop (i + 1)).zipIdx (i + 1) := by
  obtain ⟨hi, rfl⟩ := List.getElem?_eq_some_iff.1 h
  conv_lhs => rw [← List.take_append_drop i items, List.drop_eq_getElem_cons hi]
  rw [List.zipIdx_append, List.zipIdx_cons, List.length_take_of_le (Nat.le_of_lt hi),
    Nat.zero_add]

namespace Assembly

/-! ## The layout -/

/-- The inequalities with the rows that they stand in, in order. The slack of the inequality at `q`
has the column `q` behind the variables. -/
def inequalityRows (assembly : Assembly α) : List (Constraint α × Nat) :=
  assembly.constraints.zipIdx.filter (·.1.relation != .equal)

/-- The layout of a program, cell by cell. -/
structure LaidOut [Zero α] [One α] [Neg α] [Add α] (assembly : Assembly α)
    (objective : Objective α) (p : Program α) : Prop where
  direction : p.direction = objective.direction
  unknowns : p.unknowns = assembly.declared
  slacks : p.slacks = assembly.inequalityRows.map fun row => slackName row.1.name
  columns_length : p.columns.length = assembly.declared.length + assembly.inequalityRows.length
  rows : p.matrix.length = assembly.constraints.length
  row_length : ∀ row ∈ p.matrix,
    row.length = assembly.declared.length + assembly.inequalityRows.length
  bounds_length : p.bounds.length = assembly.constraints.length
  costs_length : p.costs.length = assembly.declared.length + assembly.inequalityRows.length
  variable_entry : ∀ i c, assembly.constraints[i]? = some c →
    ∀ j name, assembly.declared[j]? = some name →
      p.cell? (.entry i j) = some (columnSum 0 c.terms name)
  variable_cost : ∀ j name, assembly.declared[j]? = some name →
    p.cell? (.cost j) = some (columnSum 0 objective.terms name)
  slack_entry : ∀ q c i, assembly.inequalityRows[q]? = some (c, i) →
    p.cell? (.entry i (assembly.declared.length + q)) =
      some (if c.relation = .atMost then 1 else -1)
  slack_entry_of_ne : ∀ q c i, assembly.inequalityRows[q]? = some (c, i) →
    ∀ other, other < assembly.constraints.length → other ≠ i →
      p.cell? (.entry other (assembly.declared.length + q)) = some 0
  equation_entry : ∀ i c, assembly.constraints[i]? = some c → c.relation = .equal →
    ∀ q, q < assembly.inequalityRows.length →
      p.cell? (.entry i (assembly.declared.length + q)) = some 0
  slack_cost : ∀ q, q < assembly.inequalityRows.length →
    p.cell? (.cost (assembly.declared.length + q)) = some 0
  bound : ∀ i c, assembly.constraints[i]? = some c → p.cell? (.bound i) = some c.constant

/-! ## Inequalities and their rows -/

section InequalityRows

variable {assembly : Assembly α} {constraints : List (Constraint α)} {c : Constraint α} {i q : Nat}

theorem map_fst_inequalityRows (assembly : Assembly α) :
    assembly.inequalityRows.map Prod.fst = assembly.inequalities := by
  rw [inequalities, ← List.zipIdx_map_fst 0 assembly.constraints, List.filter_map]
  rfl

theorem length_inequalityRows (assembly : Assembly α) :
    assembly.inequalityRows.length = assembly.inequalities.length := by
  rw [← map_fst_inequalityRows, List.length_map]

theorem nodup_inequalityRows (assembly : Assembly α) : assembly.inequalityRows.Nodup := by
  refine List.Nodup.filter _ (List.Nodup.of_map Prod.snd ?_)
  rw [List.zipIdx_map_snd]
  exact List.nodup_range'

theorem getElem?_of_inequalityRows (h : assembly.inequalityRows[q]? = some (c, i)) :
    assembly.constraints[i]? = some c ∧ c.relation ≠ .equal := by
  obtain ⟨hmem, hrelation⟩ := List.mem_filter.1 (List.mem_of_getElem? h)
  exact ⟨List.mem_zipIdx_iff_getElem?.1 hmem, by simpa using hrelation⟩

/-- How many inequalities stand above a row. -/
def rank (constraints : List (Constraint α)) (i : Nat) : Nat :=
  ((constraints.take i).filter (·.relation != .equal)).length

/-- The inequality of a row comes after those above it. -/
theorem inequalityRows_rank (h : assembly.constraints[i]? = some c) (hc : c.relation ≠ .equal) :
    assembly.inequalityRows[rank assembly.constraints i]? = some (c, i) := by
  have hrank : rank assembly.constraints i =
      ((assembly.constraints.take i).zipIdx.filter (·.1.relation != .equal)).length := by
    rw [rank, ← List.zipIdx_map_fst 0 (assembly.constraints.take i), List.filter_map,
      List.length_map, List.zipIdx_map_fst]
    rfl
  rw [inequalityRows, zipIdx_eq_append_cons h, List.filter_append,
    List.filter_cons_of_pos (by simpa using hc), hrank]
  simp

theorem inequalityRows_eq_some_iff : assembly.inequalityRows[q]? = some (c, i) ↔
    assembly.constraints[i]? = some c ∧ c.relation ≠ .equal ∧
      rank assembly.constraints i = q := by
  constructor
  · intro h
    obtain ⟨hi, hc⟩ := getElem?_of_inequalityRows h
    have hlt := (List.getElem?_eq_some_iff.1 h).1
    refine ⟨hi, hc, ((List.getElem?_inj hlt assembly.nodup_inequalityRows).1 ?_).symm⟩
    rw [h, inequalityRows_rank hi hc]
  · rintro ⟨hi, hc, rfl⟩
    exact inequalityRows_rank hi hc

/-- The slack columns of a row: an inequality has an entry in the column of its rank. -/
theorem getElem?_slackRows [Zero α] [One α] [Neg α] (count next : Nat)
    (constraints : List (Constraint α)) (i : Nat) :
    (slackRows count next constraints)[i]? = constraints[i]?.map fun c =>
      match slackSign? c.relation with
      | none => List.replicate count 0
      | some entry => (List.replicate count 0).set (next + rank constraints i) entry := by
  induction constraints generalizing next i with
  | nil => rfl
  | cons c constraints ih =>
    rw [slackRows]
    cases hsign : (slackSign? c.relation : Option α) with
    | none =>
      have hc : (c.relation != .equal) = false := by
        simp [slackSign?_eq_none_iff.1 hsign]
      cases i with
      | zero => simp [hsign]
      | succ i => simp [ih, rank, hc]
    | some entry =>
      have hc : (c.relation != .equal) = true := by
        rw [bne_iff_ne, ne_eq, ← slackSign?_eq_none_iff (α := α), hsign]
        exact Option.some_ne_none entry
      cases i with
      | zero => simp [hsign, rank]
      | succ i => simp [ih, rank, hc, Nat.add_assoc, Nat.add_comm 1]

end InequalityRows

/-! ## The assembled program -/

section Layout

variable [Zero α] [One α] [Neg α] {assembly : Assembly α} {objective : Objective α}
  {c : Constraint α} {i j q : Nat} {name : Text}

/-- The slack columns of the row of a constraint. -/
def slackRow (assembly : Assembly α) (c : Constraint α) (i : Nat) : List α :=
  match slackSign? c.relation with
  | none => List.replicate assembly.inequalityRows.length 0
  | some entry =>
    (List.replicate assembly.inequalityRows.length 0).set (rank assembly.constraints i) entry

theorem length_slackRow (assembly : Assembly α) (c : Constraint α) (i : Nat) :
    (assembly.slackRow c i).length = assembly.inequalityRows.length := by
  rw [slackRow]
  split <;> simp

theorem slackRow_of_equal (hc : c.relation = .equal) (hq : q < assembly.inequalityRows.length) :
    (assembly.slackRow c i)[q]? = some 0 := by
  rw [slackRow, slackSign?_eq_none_iff.2 hc]
  exact List.getElem?_replicate_of_lt hq

theorem slackRow_of_ne (hc : c.relation ≠ .equal) (hq : q < assembly.inequalityRows.length) :
    (assembly.slackRow c i)[q]? = some
      (if rank assembly.constraints i = q then if c.relation = .atMost then 1 else -1 else 0) := by
  have hsign : slackSign? c.relation = some (if c.relation = .atMost then 1 else (-1 : α)) := by
    cases hrelation : c.relation with
    | atMost | atLeast => rfl
    | equal => exact absurd hrelation hc
  rw [slackRow, hsign, List.getElem?_set]
  by_cases hrank : rank assembly.constraints i = q <;> simp [hrank, hq]

variable [Add α]

/-- A row of the matrix: the sums of its constraint, and its slack columns. -/
theorem getElem?_matrix_layout (h : assembly.constraints[i]? = some c) :
    (assembly.layout objective).matrix[i]? =
      some (assembly.declared.map (columnSum 0 c.terms) ++ assembly.slackRow c i) := by
  simp only [layout, List.getElem?_zipWith, List.getElem?_map, getElem?_slackRows, h,
    Option.map_some, Nat.zero_add, ← length_inequalityRows]
  rfl

theorem cell?_layout_variable (h : assembly.constraints[i]? = some c)
    (hj : assembly.declared[j]? = some name) :
    (assembly.layout objective).cell? (.entry i j) = some (columnSum 0 c.terms name) := by
  have hlt := (List.getElem?_eq_some_iff.1 hj).1
  rw [Program.cell?, getElem?_matrix_layout h, Option.bind_some,
    List.getElem?_append_left (by simpa using hlt), List.getElem?_map, hj, Option.map_some]

theorem cell?_layout_slack (h : assembly.constraints[i]? = some c) (q : Nat) :
    (assembly.layout objective).cell? (.entry i (assembly.declared.length + q)) =
      (assembly.slackRow c i)[q]? := by
  rw [Program.cell?, getElem?_matrix_layout h, Option.bind_some,
    List.getElem?_append_right (by simp), List.length_map, Nat.add_sub_cancel_left]

/-- The sums of the objective fill the columns of the variables, and zeros those of the slacks. -/
theorem costs_layout (assembly : Assembly α) (objective : Objective α) :
    (assembly.layout objective).costs = assembly.declared.map (columnSum 0 objective.terms) ++
      List.replicate assembly.inequalityRows.length 0 := by
  rw [layout, length_inequalityRows]

theorem length_of_mem_matrix_layout {row : List α}
    (h : row ∈ (assembly.layout objective).matrix) :
    row.length = assembly.declared.length + assembly.inequalityRows.length := by
  obtain ⟨i, hi⟩ := List.mem_iff_getElem?.1 h
  cases hc : assembly.constraints[i]? with
  | none => simp [layout, List.getElem?_zipWith, hc] at hi
  | some c =>
    rw [getElem?_matrix_layout hc, Option.some.injEq] at hi
    rw [← hi, List.length_append, List.length_map, length_slackRow]

/-- **The layout of an assembly.** -/
theorem laidOut_layout (assembly : Assembly α) (objective : Objective α) :
    LaidOut assembly objective (assembly.layout objective) where
  direction := rfl
  unknowns := rfl
  slacks := by
    show assembly.inequalities.map _ = _
    rw [← map_fst_inequalityRows, List.map_map]
    rfl
  columns_length := by simp [Program.columns, layout, length_inequalityRows]
  rows := by
    have hslack : (slackRows assembly.inequalities.length 0 assembly.constraints :
        List (List α)).length = assembly.constraints.length := length_slackRows ..
    simp [layout, hslack]
  row_length _ := length_of_mem_matrix_layout
  bounds_length := by simp [layout]
  costs_length := by simp [costs_layout]
  variable_entry _ _ hi _ _ hj := cell?_layout_variable hi hj
  variable_cost j name hj := by
    have hlt := (List.getElem?_eq_some_iff.1 hj).1
    rw [Program.cell?, costs_layout, List.getElem?_append_left (by simpa using hlt),
      List.getElem?_map, hj, Option.map_some]
  slack_entry q c i h := by
    obtain ⟨hi, hc, hrank⟩ := inequalityRows_eq_some_iff.1 h
    rw [cell?_layout_slack hi, slackRow_of_ne hc (List.getElem?_eq_some_iff.1 h).1, if_pos hrank]
  slack_entry_of_ne q c i h other hother hne := by
    have hq := (List.getElem?_eq_some_iff.1 h).1
    have hd := List.getElem?_eq_getElem hother
    rw [cell?_layout_slack hd]
    by_cases hequal : assembly.constraints[other].relation = .equal
    · exact slackRow_of_equal hequal hq
    · -- The row has an entry in the column of its own rank, and only one row has this rank.
      have hrank : rank assembly.constraints other ≠ q := by
        intro hrank
        have hsame := inequalityRows_eq_some_iff.2 ⟨hd, hequal, hrank⟩
        rw [h, Option.some.injEq] at hsame
        exact hne (congrArg Prod.snd hsame).symm
      rw [slackRow_of_ne hequal hq, if_neg hrank]
  equation_entry i c hi hc q hq := by
    rw [cell?_layout_slack hi, slackRow_of_equal hc hq]
  slack_cost q hq := by
    rw [Program.cell?, costs_layout, List.getElem?_append_right (by simp), List.length_map,
      Nat.add_sub_cancel_left]
    exact List.getElem?_replicate_of_lt hq
  bound i c hi := by
    show (assembly.constraints.map (·.constant))[i]? = _
    rw [List.getElem?_map, hi, Option.map_some]

end Layout

/-! ## One layout -/

section Unique

variable [Zero α] [One α] [Neg α] [Add α] {assembly : Assembly α} {objective : Objective α}
  {p p' : Program α}

/-- What the arrays have: rows of constraints, and columns of variables and of inequalities. -/
theorem LaidOut.isSome_cell?_iff (h : LaidOut assembly objective p) (cell : Cell) :
    (p.cell? cell).isSome = true ↔ match cell with
      | .entry i j => i < assembly.constraints.length ∧
          j < assembly.declared.length + assembly.inequalityRows.length
      | .bound i => i < assembly.constraints.length
      | .cost j => j < assembly.declared.length + assembly.inequalityRows.length := by
  cases cell with
  | entry i j =>
    simp only [Program.cell?]
    by_cases hi : i < assembly.constraints.length
    · have hi' : i < p.matrix.length := by rwa [h.rows]
      have hrow := h.row_length _ (List.getElem_mem hi')
      rw [List.getElem?_eq_getElem hi', Option.bind_some]
      simp [hi, hrow]
    · rw [List.getElem?_eq_none (by rw [h.rows]; omega)]
      simp [hi]
  | bound i => simp [Program.cell?, h.bounds_length]
  | cost j => simp [Program.cell?, h.costs_length]

/-- The layout says what stands in every cell. -/
theorem LaidOut.cell?_eq (h : LaidOut assembly objective p) (h' : LaidOut assembly objective p')
    (cell : Cell) : p.cell? cell = p'.cell? cell := by
  by_cases hinside : (p.cell? cell).isSome = true
  · have hshape := (h.isSome_cell?_iff cell).1 hinside
    cases cell with
    | entry i j =>
      obtain ⟨hi, hj⟩ := hshape
      have hc := List.getElem?_eq_getElem hi
      by_cases hvariable : j < assembly.declared.length
      · have hname := List.getElem?_eq_getElem hvariable
        rw [h.variable_entry i _ hc j _ hname, h'.variable_entry i _ hc j _ hname]
      · obtain ⟨q, rfl⟩ := Nat.exists_eq_add_of_le (Nat.le_of_not_lt hvariable)
        have hlt := Nat.lt_of_add_lt_add_left hj
        obtain ⟨⟨d, row⟩, hq⟩ : ∃ slack, assembly.inequalityRows[q]? = some slack :=
          ⟨_, List.getElem?_eq_getElem hlt⟩
        by_cases hrow : i = row
        · subst hrow
          rw [h.slack_entry q _ _ hq, h'.slack_entry q _ _ hq]
        · rw [h.slack_entry_of_ne q _ _ hq i hi hrow, h'.slack_entry_of_ne q _ _ hq i hi hrow]
    | bound i =>
      have hc := List.getElem?_eq_getElem hshape
      rw [h.bound i _ hc, h'.bound i _ hc]
    | cost j =>
      by_cases hvariable : j < assembly.declared.length
      · have hname := List.getElem?_eq_getElem hvariable
        rw [h.variable_cost j _ hname, h'.variable_cost j _ hname]
      · obtain ⟨q, rfl⟩ := Nat.exists_eq_add_of_le (Nat.le_of_not_lt hvariable)
        have hq := Nat.lt_of_add_lt_add_left hshape
        rw [h.slack_cost q hq, h'.slack_cost q hq]
  · have hinside' : ¬(p'.cell? cell).isSome = true := by
      rwa [h'.isSome_cell?_iff, ← h.isSome_cell?_iff]
    rw [Option.not_isSome_iff_eq_none] at hinside hinside'
    rw [hinside, hinside']

/-- **The layout fixes the program.** -/
theorem LaidOut.unique (h : LaidOut assembly objective p) (h' : LaidOut assembly objective p') :
    p = p' := by
  have hcell := h.cell?_eq h'
  have hmatrix : p.matrix = p'.matrix := by
    refine List.ext_getElem (h.rows.trans h'.rows.symm) fun i hi hi' => ?_
    refine List.ext_getElem? fun j => ?_
    have := hcell (.entry i j)
    rwa [Program.cell?, Program.cell?, List.getElem?_eq_getElem hi, List.getElem?_eq_getElem hi']
      at this
  have hbounds : p.bounds = p'.bounds := List.ext_getElem? fun i => hcell (.bound i)
  have hcosts : p.costs = p'.costs := List.ext_getElem? fun j => hcell (.cost j)
  have hdirection := h.direction.trans h'.direction.symm
  have hunknowns := h.unknowns.trans h'.unknowns.symm
  have hslacks := h.slacks.trans h'.slacks.symm
  obtain ⟨matrix, bounds, costs, direction, unknowns, slacks⟩ := p
  obtain ⟨matrix', bounds', costs', direction', unknowns', slacks'⟩ := p'
  rw [Program.mk.injEq]
  exact ⟨hmatrix, hbounds, hcosts, hdirection, hunknowns, hslacks⟩

end Unique

end Assembly

end LinearProgram
