import Mathlib.Tactic.Linarith
import Mathlib.Tactic.Ring
import LinearProgram.Proofs.StandardForm.Layout

/-!
# Slacks

In exact numbers a row of an assembled program says what its constraint says. The part of the row
that belongs to the variables multiplies to the value of the sum (`dot_columnSums`), and the part
that belongs to the slacks picks the one slack of an inequality (`dot_set_replicate_zero`), which
must then be the gap between the two sides.

Slacks are counted by inequality and not by row, so what is proved by induction on the constraints
(`rows_hold_iff`) speaks of the slacks from a given one on.
-/

namespace LinearProgram

/-! ## Products -/

section Products

variable {row row' point point' : List Rat} {names : List Text} {x : Text → Rat}

theorem dot_append (h : row.length = point.length) :
    dot (row ++ row') (point ++ point') = dot row point + dot row' point' := by
  induction row generalizing point with
  | nil =>
    obtain rfl := List.length_eq_zero_iff.1 h.symm
    simp [dot]
  | cons a row ih =>
    cases point with
    | nil => simp at h
    | cons v point =>
      simp only [List.cons_append, dot, ih (Nat.succ.inj h)]
      ring

theorem dot_replicate_zero (count : Nat) (point : List Rat) :
    dot (List.replicate count 0) point = 0 := by
  induction count generalizing point with
  | zero => simp [dot]
  | succ count ih => cases point <;> simp [List.replicate_succ, dot, ih]

/-- A row with one entry picks out that column. -/
theorem dot_set_replicate_zero {count i : Nat} (entry : Rat) (h : i < point.length)
    (hcount : point.length = count) :
    dot ((List.replicate count 0).set i entry) point = entry * point[i] := by
  induction count generalizing i point with
  | zero => simp [hcount] at h
  | succ count ih =>
    cases point with
    | nil => simp at h
    | cons v point =>
      cases i with
      | zero => simp [List.replicate_succ, dot, dot_replicate_zero]
      | succ i =>
        simp only [List.replicate_succ, List.set_cons_succ, dot, zero_mul, zero_add,
          List.getElem_cons_succ]
        exact ih _ (Nat.succ.inj hcount)

theorem dot_map_add (f g : Text → Rat) :
    dot (names.map fun name => f name + g name) point =
      dot (names.map f) point + dot (names.map g) point := by
  induction names generalizing point with
  | nil => simp [dot]
  | cons name names ih =>
    cases point with
    | nil => simp [dot]
    | cons v point =>
      simp only [List.map_cons, dot, ih]
      ring

/-- A row that is zero but at one name picks out the value at that name. -/
theorem dot_map_ite (hnodup : names.Nodup) {name : Text} (h : name ∈ names) (a : Rat) :
    dot (names.map fun other => if name = other then a else 0) (names.map x) = a * x name := by
  induction names with
  | nil => simp at h
  | cons other names ih =>
    obtain ⟨hother, hnodup⟩ := List.nodup_cons.1 hnodup
    rw [List.map_cons, List.map_cons, dot]
    by_cases heq : name = other
    · subst heq
      have hzero : (names.map fun other => if name = other then a else 0) =
          List.replicate names.length 0 := by
        rw [← List.map_const']
        exact List.map_congr_left fun n hn => if_neg fun (he : name = n) => hother (he ▸ hn)
      rw [hzero, dot_replicate_zero, if_pos rfl, add_zero]
    · rw [if_neg heq, ih hnodup ((List.mem_cons.1 h).resolve_left heq)]
      ring

end Products

/-! ## Sums -/

section Sums

variable {terms : List (Term Rat)} {names : List Text} {x : Text → Rat}

theorem columnSum_eq_add (start : Rat) (terms : List (Term Rat)) (name : Text) :
    columnSum start terms name = start + columnSum 0 terms name := by
  induction terms generalizing start with
  | nil => simp
  | cons t terms ih =>
    by_cases h : t.name = name
    · subst h
      rw [columnSum_cons_self, columnSum_cons_self, ih, ih (0 + t.coefficient)]
      ring
    · rw [columnSum_cons_of_ne h, columnSum_cons_of_ne h, ih]

/-- The entries of a sum multiply to its value, also when names are repeated. -/
theorem dot_columnSums (hnodup : names.Nodup) (hterms : ∀ t ∈ terms, t.name ∈ names) :
    dot (names.map (columnSum 0 terms)) (names.map x) = termsValue x terms := by
  induction terms with
  | nil =>
    have hzero : names.map (columnSum 0 []) = List.replicate names.length (0 : Rat) :=
      List.map_const'
    rw [hzero, dot_replicate_zero]
    rfl
  | cons t terms ih =>
    have hsplit : names.map (columnSum 0 (t :: terms)) = names.map fun name =>
        (if t.name = name then t.coefficient else 0) + columnSum 0 terms name := by
      refine List.map_congr_left fun name _ => ?_
      split
      next h => rw [← h, columnSum_cons_self, columnSum_eq_add, zero_add]
      next h => rw [columnSum_cons_of_ne h, zero_add]
    rw [hsplit, dot_map_add, dot_map_ite hnodup (hterms t List.mem_cons_self),
      ih fun u hu => hterms u (List.mem_cons_of_mem t hu)]
    rfl

end Sums

/-! ## Gaps -/

namespace Constraint

variable {c : Constraint Rat} {x : Text → Rat}

/-- By how much the greater side of an inequality exceeds the other one. -/
def gap (x : Text → Rat) (c : Constraint Rat) : Rat :=
  match c.relation with
  | .atMost => c.constant - termsValue x c.terms
  | .atLeast => termsValue x c.terms - c.constant
  | .equal => 0

theorem satisfied_iff_gap : c.Satisfied x ↔
    (c.relation = .equal → termsValue x c.terms = c.constant) ∧
      (c.relation ≠ .equal → 0 ≤ c.gap x) := by
  cases h : c.relation <;> simp [Satisfied, Relation.Holds, gap, h]

/-- The slack that makes an equation of an inequality is the gap. -/
theorem add_slack_eq_iff {entry s : Rat} (h : Assembly.slackSign? c.relation = some entry) :
    termsValue x c.terms + entry * s = c.constant ↔ s = c.gap x := by
  cases hc : c.relation <;> simp only [hc, Assembly.slackSign?, Option.some.injEq,
    reduceCtorEq] at h
  · simp only [gap, hc, ← h, one_mul]
    exact ⟨fun h => by linarith, fun h => by linarith⟩
  · simp only [gap, hc, ← h]
    exact ⟨fun h => by linarith, fun h => by linarith⟩

end Constraint

namespace Assembly

variable {constraints : List (Constraint Rat)} {x : Text → Rat}

/-- The gaps of the inequalities, in order. -/
def gaps (x : Text → Rat) (constraints : List (Constraint Rat)) : List Rat :=
  (constraints.filter (·.relation != .equal)).map (·.gap x)

theorem mem_gaps_iff {v : Rat} : v ∈ gaps x constraints ↔
    ∃ c ∈ constraints, c.relation ≠ .equal ∧ c.gap x = v := by
  simp [gaps, and_assoc]

/-- **Rows say what constraints say.** The rows hold exactly when the equations do and the slacks,
from the next one on, are the gaps. -/
theorem rows_hold_iff {names : List Text} (hnodup : names.Nodup)
    (hterms : ∀ c ∈ constraints, ∀ t ∈ c.terms, t.name ∈ names) {next : Nat} {s : List Rat}
    (hlength : next + (constraints.filter (·.relation != .equal)).length = s.length) :
    (List.zipWith (· ++ ·) (constraints.map fun c => names.map (columnSum 0 c.terms))
        (slackRows s.length next constraints)).map (dot · (names.map x ++ s)) =
          constraints.map (·.constant) ↔
      (∀ c ∈ constraints, c.relation = .equal → termsValue x c.terms = c.constant) ∧
        s.drop next = gaps x constraints := by
  induction constraints generalizing next with
  | nil =>
    obtain rfl : next = s.length := by simpa using hlength
    simp [gaps]
  | cons c constraints ih =>
    have htail : ∀ d ∈ constraints, ∀ t ∈ d.terms, t.name ∈ names :=
      fun d hd => hterms d (List.mem_cons_of_mem c hd)
    -- the part of the row that belongs to the variables
    have hrow : ∀ slack, dot (names.map (columnSum 0 c.terms) ++ slack) (names.map x ++ s) =
        termsValue x c.terms + dot slack s := fun slack => by
      rw [dot_append (by simp), dot_columnSums hnodup (hterms c List.mem_cons_self)]
    simp only [List.map_cons, slackRows, List.forall_mem_cons]
    cases hentry : (slackSign? c.relation : Option Rat) with
    | none =>
      have hc := slackSign?_eq_none_iff.1 hentry
      have hskip : (c :: constraints).filter (·.relation != .equal) =
          constraints.filter (·.relation != .equal) := List.filter_cons_of_neg (by simp [hc])
      rw [hskip] at hlength
      simp only [List.zipWith_cons_cons, List.map_cons, List.cons.injEq, hrow, dot_replicate_zero,
        add_zero, ih htail hlength, hc, forall_const, gaps, hskip, and_assoc]
    | some entry =>
      have hc : c.relation ≠ .equal := fun h => by
        rw [slackSign?_eq_none_iff.2 h] at hentry
        simp at hentry
      have htake : (c :: constraints).filter (·.relation != .equal) =
          c :: constraints.filter (·.relation != .equal) :=
        List.filter_cons_of_pos (by simpa using hc)
      rw [htake, List.length_cons] at hlength
      have hlt : next < s.length := by omega
      have hlength' : next + 1 + (constraints.filter (·.relation != .equal)).length = s.length := by
        omega
      simp only [List.zipWith_cons_cons, List.map_cons, List.cons.injEq, hrow,
        dot_set_replicate_zero entry hlt rfl, Constraint.add_slack_eq_iff hentry, ih htail hlength',
        List.drop_eq_getElem_cons hlt, hc, false_implies, true_and, gaps, htake]
      exact and_left_comm

end Assembly

end LinearProgram
