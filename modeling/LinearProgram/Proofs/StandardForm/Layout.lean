import Mathlib.Data.List.Nodup
import Mathlib.Logic.Function.Basic
import LinearProgram.Proofs.Sequence
import LinearProgram.StandardForm.Assembly

/-!
# The layout of an assembled program

Finishing an assembly adds coefficients to the entries of rows, one term after the other. What comes
out has a closed form (`Assembly.layout`): the entry of a variable is the sum of the coefficients of
its terms, added from left to right, and every variable has exactly one column.

Main result: `Assembly.program_eq_ok_iff`, for numbers of any kind.
-/

namespace LinearProgram

variable {α : Type}

/-- The coefficients with which a variable occurs in a sum. -/
def occurrences (terms : List (Term α)) (name : Text) : List α :=
  (terms.filter (·.name == name)).map (·.coefficient)

/-- The coefficient of a variable in a sum: those of its terms, added to `start` from left to
right. -/
def columnSum [Add α] (start : α) (terms : List (Term α)) (name : Text) : α :=
  (occurrences terms name).foldl (· + ·) start

section ColumnSum

variable {start : α} {t : Term α} {terms : List (Term α)} {name : Text}

theorem occurrences_cons_self :
    occurrences (t :: terms) t.name = t.coefficient :: occurrences terms t.name := by
  simp [occurrences]

theorem occurrences_cons_of_ne (h : t.name ≠ name) :
    occurrences (t :: terms) name = occurrences terms name := by
  simp [occurrences, h]

variable [Add α]

@[simp] theorem columnSum_nil : columnSum start [] name = start := rfl

theorem columnSum_cons_self :
    columnSum start (t :: terms) t.name = columnSum (start + t.coefficient) terms t.name := by
  rw [columnSum, occurrences_cons_self, List.foldl_cons, columnSum]

theorem columnSum_cons_of_ne (h : t.name ≠ name) :
    columnSum start (t :: terms) name = columnSum start terms name := by
  rw [columnSum, occurrences_cons_of_ne h, columnSum]

end ColumnSum

namespace Assembly

variable {assembly : Assembly α} {owner : Owner} {name : Text} {terms : List (Term α)}

/-! ## Columns -/

/-- The variables have distinct names, and the index has the position of each. -/
structure Indexed (assembly : Assembly α) : Prop where
  nodup : assembly.declared.Nodup
  index_eq : assembly.index = assembly.declared.zipIdx

theorem lookup_zipIdx (names : List Text) (name : Text) (start : Nat) :
    (names.zipIdx start).lookup name = (names.findIdx? (· == name)).map (start + ·) := by
  induction names generalizing start with
  | nil => rfl
  | cons other names ih =>
    rw [List.zipIdx_cons, List.lookup_cons, List.findIdx?_cons, ih]
    by_cases h : other = name
    · simp [h]
    · have hne : (name == other) = false := beq_false_of_ne (Ne.symm h)
      cases names.findIdx? (· == name) <;> simp [h, hne, Nat.add_assoc, Nat.add_comm 1]

theorem Indexed.column?_eq (h : assembly.Indexed) (name : Text) :
    assembly.column? name = assembly.declared.findIdx? (· == name) := by
  rw [column?, h.index_eq, lookup_zipIdx]
  simp

theorem Indexed.getElem?_of_column? (h : assembly.Indexed) {j : Nat}
    (hj : assembly.column? name = some j) : assembly.declared[j]? = some name := by
  rw [h.column?_eq] at hj
  obtain ⟨hlt, heq, -⟩ := List.findIdx?_eq_some_iff_getElem.1 hj
  rw [List.getElem?_eq_getElem hlt, beq_iff_eq.1 heq]

theorem Indexed.column?_eq_none_iff (h : assembly.Indexed) :
    assembly.column? name = none ↔ name ∉ assembly.declared := by
  rw [h.column?_eq, List.findIdx?_eq_none_iff]
  constructor
  · intro h hmem
    simpa using h name hmem
  · intro h other hother
    simp only [beq_eq_false_iff_ne]
    rintro rfl
    exact h hother

/-- Changing the entry in the column of a variable changes the value at its name. -/
theorem modify_map_declared (h : assembly.Indexed) {j : Nat}
    (hj : assembly.column? name = some j) (v : Text → α) (f : α → α) :
    (assembly.declared.map v).modify j f =
      assembly.declared.map (Function.update v name (f (v name))) := by
  have hname := h.getElem?_of_column? hj
  refine List.ext_getElem? fun i => ?_
  rw [List.getElem?_modify, List.getElem?_map, List.getElem?_map]
  by_cases hi : j = i
  · subst hi
    simp [hname]
  · cases hother : assembly.declared[i]? with
    | none => simp
    | some other =>
      have hne : other ≠ name := by
        rintro rfl
        have hlt := (List.getElem?_eq_some_iff.1 hname).1
        exact hi ((List.getElem?_inj hlt h.nodup).1 (hname.trans hother.symm))
      simp [hi, Function.update_of_ne hne]

/-! ## Rows -/

section Rows

variable [Add α] {row row' : List α}

/-- A sum that can be laid out uses declared variables only. -/
theorem declared_of_accumulate (hindexed : assembly.Indexed)
    (h : assembly.accumulate owner row terms = .ok row') :
    ∀ t ∈ terms, t.name ∈ assembly.declared := by
  induction terms generalizing row with
  | nil => simp
  | cons t terms ih =>
    rw [accumulate] at h
    cases hj : assembly.column? t.name with
    | none => simp [hj] at h
    | some j =>
      simp only [hj] at h
      intro u hu
      rcases List.mem_cons.1 hu with rfl | hu
      · exact List.mem_of_getElem? (hindexed.getElem?_of_column? hj)
      · exact ih h u hu

/-- **Laying out a sum.** Every entry grows by the coefficients of its variable. -/
theorem accumulate_map (h : assembly.Indexed) (v : Text → α)
    (hterms : ∀ t ∈ terms, t.name ∈ assembly.declared) :
    assembly.accumulate owner (assembly.declared.map v) terms =
      .ok (assembly.declared.map fun name => columnSum (v name) terms name) := by
  induction terms generalizing v with
  | nil => rfl
  | cons t terms ih =>
    have ht : assembly.column? t.name ≠ none := fun hnone =>
      h.column?_eq_none_iff.1 hnone (hterms t List.mem_cons_self)
    obtain ⟨j, hj⟩ := Option.ne_none_iff_exists'.1 ht
    simp only [accumulate, hj]
    rw [modify_map_declared h hj, ih _ fun u hu => hterms u (List.mem_cons_of_mem t hu)]
    refine congrArg Except.ok (List.map_congr_left fun name _ => ?_)
    by_cases hname : t.name = name
    · subst hname
      rw [Function.update_self, columnSum_cons_self]
    · rw [Function.update_of_ne (Ne.symm hname), columnSum_cons_of_ne hname]

variable [Zero α]

theorem entries_eq_ok_iff (hindexed : assembly.Indexed) :
    assembly.entries owner terms = .ok row ↔
      (∀ t ∈ terms, t.name ∈ assembly.declared) ∧
        assembly.declared.map (columnSum 0 terms) = row := by
  have hzero : List.replicate assembly.declared.length (0 : α) =
      assembly.declared.map fun _ => 0 := List.map_const'.symm
  rw [entries, hzero]
  constructor
  · intro h
    have hterms := declared_of_accumulate hindexed h
    rw [accumulate_map hindexed _ hterms] at h
    exact ⟨hterms, Except.ok.inj h⟩
  · rintro ⟨hterms, rfl⟩
    exact accumulate_map hindexed _ hterms

/-- The rows of all constraints can be laid out when all of their variables are declared. -/
theorem mapM_entries_eq_ok_iff (hindexed : assembly.Indexed)
    {constraints : List (Constraint α)} {rows : List (List α)} :
    (constraints.mapM fun c => assembly.entries (.constraint c.name) c.terms) = .ok rows ↔
      (∀ c ∈ constraints, ∀ t ∈ c.terms, t.name ∈ assembly.declared) ∧
        (constraints.map fun c => assembly.declared.map (columnSum 0 c.terms)) = rows := by
  rw [mapM_eq_ok_iff]
  simp only [entries_eq_ok_iff hindexed]
  rw [List.forall₂_and_left, ← List.forall₂_map_left_iff (R := Eq), List.forall₂_eq_eq_eq]

end Rows

/-! ## Slack columns -/

theorem slackSign?_eq_none_iff {α : Type} [One α] [Neg α] {relation : Relation} :
    (slackSign? relation : Option α) = none ↔ relation = .equal := by
  cases relation <;> simp [slackSign?]

section SlackRows

variable [Zero α] [One α] [Neg α]

theorem length_slackRows (count next : Nat) (constraints : List (Constraint α)) :
    (slackRows count next constraints).length = constraints.length := by
  induction constraints generalizing next with
  | nil => rfl
  | cons c constraints ih =>
    rw [slackRows]
    cases (slackSign? c.relation : Option α) <;> simp [ih]

theorem length_of_mem_slackRows {count next : Nat} {constraints : List (Constraint α)}
    {row : List α} (h : row ∈ slackRows count next constraints) : row.length = count := by
  induction constraints generalizing next with
  | nil => simp [slackRows] at h
  | cons c constraints ih =>
    rw [slackRows] at h
    cases hentry : (slackSign? c.relation : Option α) with
    | none =>
      rcases List.mem_cons.1 (by simpa only [hentry] using h) with rfl | h
      · exact List.length_replicate
      · exact ih h
    | some entry =>
      rcases List.mem_cons.1 (by simpa only [hentry] using h) with rfl | h
      · rw [List.length_set, List.length_replicate]
      · exact ih h

end SlackRows

/-! ## Programs -/

section Programs

variable [Zero α] [One α] [Neg α] [Add α] {p : Program α}

/-- The program of an assembly with this objective, when all variables are declared. -/
def layout (assembly : Assembly α) (objective : Objective α) : Program α where
  matrix := List.zipWith (· ++ ·)
    (assembly.constraints.map fun c => assembly.declared.map (columnSum 0 c.terms))
    (slackRows assembly.inequalities.length 0 assembly.constraints)
  bounds := assembly.constraints.map (·.constant)
  costs := assembly.declared.map (columnSum 0 objective.terms) ++
    List.replicate assembly.inequalities.length 0
  direction := objective.direction
  unknowns := assembly.declared
  slacks := assembly.inequalities.map fun c => slackName c.name

/-- **The program of an assembly.** -/
theorem program_eq_ok_iff (hindexed : assembly.Indexed) :
    assembly.program = .ok p ↔ ∃ objective, assembly.objective = some objective ∧
      (∀ c ∈ assembly.constraints, ∀ t ∈ c.terms, t.name ∈ assembly.declared) ∧
      (∀ t ∈ objective.terms, t.name ∈ assembly.declared) ∧
      assembly.layout objective = p := by
  rw [program]
  cases ho : assembly.objective with
  | none => simp
  | some objective =>
    simp only [Option.some.injEq, exists_eq_left']
    cases hrows : assembly.constraints.mapM fun c =>
        assembly.entries (.constraint c.name) c.terms with
    | error fault =>
      simp only [reduceCtorEq, false_iff]
      rintro ⟨hconstraints, -, -⟩
      have := (mapM_entries_eq_ok_iff hindexed).2 ⟨hconstraints, rfl⟩
      simp [hrows] at this
    | ok rows =>
      obtain ⟨hconstraints, rfl⟩ := (mapM_entries_eq_ok_iff hindexed).1 hrows
      cases hcosts : assembly.entries (.objective objective.name) objective.terms with
      | error fault =>
        simp only [reduceCtorEq, false_iff]
        rintro ⟨-, hobjective, -⟩
        have : assembly.entries (.objective objective.name) objective.terms = .ok _ :=
          (entries_eq_ok_iff hindexed).2 ⟨hobjective, rfl⟩
        simp [hcosts] at this
      | ok costs =>
        obtain ⟨hobjective, rfl⟩ := (entries_eq_ok_iff hindexed).1 hcosts
        simp only [Except.ok.injEq]
        exact ⟨fun h => ⟨hconstraints, hobjective, h⟩, fun h => h.2.2⟩

end Programs

end Assembly

end LinearProgram
