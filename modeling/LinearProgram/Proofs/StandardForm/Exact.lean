import Mathlib.Tactic.NormNum
import LinearProgram.Proofs.StandardForm.Feeding

/-!
# Programs and their exact values

The numbers of a model whose numbers are all finite have exact values, and the model over the
rationals is assembled by the same definitions. It has a program whenever the model has one
(`Model.WellNamed.exact`), with the same names.

The entries are another matter: adding coefficients rounds. Where it does not
(`Model.AddsExactly`), the rounded program has exactly the entries of the exact one
(`Model.readsAs_of_addsExactly`).
-/

namespace LinearProgram

/-! ## Numbers -/

namespace Number

theorem toRat?_zero : (0 : Number).toRat? = some 0 := by
  show some (signedValue false .zero) = some 0
  simp only [signedValue, Magnitude.toRat, Magnitude.zero, Bool.false_eq_true, if_false,
    Nat.cast_zero, zero_mul]

theorem toRat?_one : (1 : Number).toRat? = some 1 := by
  show some (signedValue false .one) = some 1
  norm_num [signedValue, Magnitude.toRat, Magnitude.one]

theorem toRat?_neg (a : Number) : (-a).toRat? = a.toRat?.map (- ·) := by
  cases a with
  | finite negative m =>
    show some (signedValue (!negative) m) = some (-signedValue negative m)
    cases negative <;> simp [signedValue]
  | infinite negative => rfl
  | undefined => rfl

end Number

/-! ## Models -/

theorem Term.rational?_eq_some_iff {t : Term Number} {u : Term Rat} :
    t.rational? = some u ↔ t.name = u.name ∧ t.coefficient.toRat? = some u.coefficient := by
  rw [Term.rational?, Option.map_eq_some_iff]
  obtain ⟨name, value⟩ := u
  simp [and_comm]

theorem Constraint.rational?_eq_some_iff {c : Constraint Number} {d : Constraint Rat} :
    c.rational? = some d ↔ c.name = d.name ∧ c.relation = d.relation ∧
      c.terms.mapM Term.rational? = some d.terms ∧ c.constant.toRat? = some d.constant := by
  obtain ⟨name, terms, constant, relation⟩ := d
  simp only [Constraint.rational?, Option.bind_eq_bind, Option.bind_eq_some_iff, Option.pure_def,
    Option.some.injEq, Constraint.mk.injEq]
  grind

theorem Objective.rational?_eq_some_iff {o : Objective Number} {r : Objective Rat} :
    o.rational? = some r ↔ o.name = r.name ∧ o.direction = r.direction ∧
      o.terms.mapM Term.rational? = some r.terms := by
  obtain ⟨name, terms, direction⟩ := r
  simp only [Objective.rational?, Option.bind_eq_bind, Option.bind_eq_some_iff, Option.pure_def,
    Option.some.injEq, Objective.mk.injEq]
  grind

theorem Model.rational?_eq_some_iff {m : Model Number} {e : Model Rat} :
    m.rational? = some e ↔ m.declarations.mapM Term.rational? = some e.declarations ∧
      m.constraints.mapM Constraint.rational? = some e.constraints ∧
      m.objective.rational? = some e.objective := by
  obtain ⟨declarations, constraints, objective⟩ := e
  simp only [Model.rational?, Option.bind_eq_bind, Option.bind_eq_some_iff, Option.pure_def,
    Option.some.injEq, Model.mk.injEq]
  grind

/-- An exact sum uses the variables of the sum. -/
theorem declared_of_exact {terms : List (Term Number)} {exact : List (Term Rat)}
    {names : List Text} (h : terms.mapM Term.rational? = some exact)
    (hterms : ∀ t ∈ terms, t.name ∈ names) : ∀ u ∈ exact, u.name ∈ names := by
  intro u hu
  obtain ⟨t, ht, htu⟩ := exists_of_mem_of_mapM h hu
  exact (Term.rational?_eq_some_iff.1 htu).1 ▸ hterms t ht

namespace Model

variable {m : Model Number} {e : Model Rat}

theorem variableNames_exact (he : m.rational? = some e) : e.variableNames = m.variableNames :=
  (map_eq_of_mapM (fun _ _ h => (Term.rational?_eq_some_iff.1 h).1)
    (rational?_eq_some_iff.1 he).1).symm

theorem WellNamed.exact (hm : m.WellNamed) (he : m.rational? = some e) : e.WellNamed := by
  have hnames := variableNames_exact he
  obtain ⟨-, hconstraints, hobjective⟩ := rational?_eq_some_iff.1 he
  have hsame : m.constraints.map (·.name) = e.constraints.map (·.name) :=
    map_eq_of_mapM (fun _ _ h => (Constraint.rational?_eq_some_iff.1 h).1) hconstraints
  refine ⟨hnames ▸ hm.unknowns, hsame ▸ hm.constraints, fun d hd => ?_, ?_⟩
  · obtain ⟨c, hc, hcd⟩ := exists_of_mem_of_mapM hconstraints hd
    obtain ⟨-, -, hterms, -⟩ := Constraint.rational?_eq_some_iff.1 hcd
    rw [hnames]
    exact declared_of_exact hterms (hm.rows c hc)
  · obtain ⟨-, -, hterms⟩ := Objective.rational?_eq_some_iff.1 hobjective
    rw [hnames]
    exact declared_of_exact hterms hm.costs

end Model

/-! ## Additions that are not rounded -/

/-- No addition is rounded when the numbers are added to a total from left to right. -/
def AddExactly : Number → List Number → Prop
  | _, [] => True
  | total, a :: rest =>
    (total + a).toRat? = (do return (← total.toRat?) + (← a.toRat?)) ∧ AddExactly (total + a) rest

instance decidableAddExactly : (total : Number) → (numbers : List Number) →
    Decidable (AddExactly total numbers)
  | _, [] => .isTrue trivial
  | total, a :: rest =>
    haveI := decidableAddExactly (total + a) rest
    inferInstanceAs (Decidable (_ ∧ _))

/-- No coefficient of a sum's variable comes about by an addition that is rounded. -/
def SumsExactly (terms : List (Term Number)) : Prop :=
  ∀ t ∈ terms, AddExactly 0 (occurrences terms t.name)

/-- No entry of the model's program comes about by an addition that is rounded. -/
def Model.AddsExactly (m : Model Number) : Prop :=
  (∀ c ∈ m.constraints, SumsExactly c.terms) ∧ SumsExactly m.objective.terms

instance decidableSumsExactly (terms : List (Term Number)) : Decidable (SumsExactly terms) :=
  inferInstanceAs (Decidable (∀ _ ∈ terms, _))

instance Model.decidableAddsExactly (m : Model Number) : Decidable m.AddsExactly :=
  inferInstanceAs (Decidable (_ ∧ _))

/-- As long as no addition is rounded, both sums have the same value. -/
theorem toRat?_columnSum_of_addExactly {terms : List (Term Number)} {exact : List (Term Rat)}
    {name : Text} (h : terms.mapM Term.rational? = some exact) {start : Number} {value : Rat}
    (hstart : start.toRat? = some value) (hadd : AddExactly start (occurrences terms name)) :
    (columnSum start terms name).toRat? = some (columnSum value exact name) := by
  have hall := mapM_eq_some_iff.1 h
  clear h
  induction hall generalizing start value with
  | nil => exact hstart
  | @cons t u terms exact htu _ ih =>
    obtain ⟨hname, hcoefficient⟩ := Term.rational?_eq_some_iff.1 htu
    by_cases ht : t.name = name
    · subst ht
      rw [occurrences_cons_self] at hadd
      obtain ⟨hsum, hrest⟩ := hadd
      rw [columnSum_cons_self, hname, columnSum_cons_self, ← hname]
      refine ih ?_ hrest
      simp [hsum, hstart, hcoefficient]
    · rw [occurrences_cons_of_ne ht] at hadd
      rw [columnSum_cons_of_ne ht, columnSum_cons_of_ne (hname ▸ ht)]
      exact ih hstart hadd

/-- Where no addition is rounded, every entry of a sum has the exact value. -/
theorem SumsExactly.toRat?_columnSum {terms : List (Term Number)} {exact : List (Term Rat)}
    (hsums : SumsExactly terms) (h : terms.mapM Term.rational? = some exact) (name : Text) :
    (columnSum 0 terms name).toRat? = some (columnSum 0 exact name) := by
  refine toRat?_columnSum_of_addExactly h Number.toRat?_zero ?_
  by_cases hname : ∃ t ∈ terms, t.name = name
  · obtain ⟨t, ht, rfl⟩ := hname
    exact hsums t ht
  · have hnone : occurrences terms name = [] := by simpa [occurrences] using hname
    rw [hnone]
    trivial

/-! ## Rows of exact values -/

theorem exactly?_eq_some_iff {numbers : List Number} {values : List Rat} :
    exactly? numbers = some values ↔
      List.Forall₂ (fun a v => a.toRat? = some v) numbers values := mapM_eq_some_iff

theorem exactly?_append {numbers numbers' : List Number} {values values' : List Rat}
    (h : exactly? numbers = some values) (h' : exactly? numbers' = some values') :
    exactly? (numbers ++ numbers') = some (values ++ values') :=
  exactly?_eq_some_iff.2 (List.rel_append (exactly?_eq_some_iff.1 h) (exactly?_eq_some_iff.1 h'))

theorem exactly?_map {ι : Type} {f : ι → Number} {g : ι → Rat} (h : ∀ i, (f i).toRat? = some (g i))
    (items : List ι) : exactly? (items.map f) = some (items.map g) := by
  rw [exactly?_eq_some_iff, List.forall₂_map_left_iff, List.forall₂_map_right_iff]
  exact List.forall₂_same.2 fun i _ => h i

theorem exactly?_replicate_zero (count : Nat) :
    exactly? (List.replicate count (0 : Number)) = some (List.replicate count 0) := by
  have h := exactly?_map (fun _ => Number.toRat?_zero) (List.replicate count ())
  simpa using h

theorem exactly?_set {numbers : List Number} {values : List Rat} {a : Number} {v : Rat}
    (h : exactly? numbers = some values) (ha : a.toRat? = some v) (i : Nat) :
    exactly? (numbers.set i a) = some (values.set i v) := by
  rw [exactly?_eq_some_iff] at h ⊢
  induction h generalizing i with
  | nil => exact .nil
  | cons hb hrest ih =>
    cases i with
    | zero => exact .cons ha hrest
    | succ i => exact .cons hb (ih i)

/-! ## Programs -/

/-- The rounded program has exactly the entries of the exact one. -/
structure Program.ReadsAs (p : Program Number) (q : Program Rat) : Prop where
  matrix : p.matrix.mapM exactly? = some q.matrix
  bounds : exactly? p.bounds = some q.bounds
  costs : exactly? p.costs = some q.costs
  direction : p.direction = q.direction
  unknowns : p.unknowns = q.unknowns
  slacks : p.slacks = q.slacks

namespace Assembly

theorem toRat?_slackSign {relation : Relation} {a : Number} (h : slackSign? relation = some a) :
    ∃ v : Rat, slackSign? relation = some v ∧ a.toRat? = some v := by
  cases relation with
  | atMost => exact ⟨1, rfl, Option.some.inj h ▸ Number.toRat?_one⟩
  | atLeast =>
    refine ⟨-1, rfl, Option.some.inj h ▸ ?_⟩
    rw [Number.toRat?_neg, Number.toRat?_one]
    rfl
  | equal => exact nomatch h

/-- The rows of constraints whose sums are not rounded. -/
theorem matrix_exact {constraints : List (Constraint Number)} {exact : List (Constraint Rat)}
    (h : constraints.mapM Constraint.rational? = some exact)
    (hsums : ∀ c ∈ constraints, SumsExactly c.terms) (names : List Text) (count next : Nat) :
    (List.zipWith (· ++ ·) (constraints.map fun c => names.map (columnSum 0 c.terms))
      (slackRows count next constraints)).mapM exactly? =
    some (List.zipWith (· ++ ·) (exact.map fun c => names.map (columnSum 0 c.terms))
      (slackRows count next exact)) := by
  rw [mapM_eq_some_iff] at h ⊢
  induction h generalizing next with
  | nil => exact .nil
  | @cons c d constraints exact hcd _ ih =>
    obtain ⟨-, hrelation, hterms, -⟩ := Constraint.rational?_eq_some_iff.1 hcd
    have hrow := exactly?_map ((hsums c List.mem_cons_self).toRat?_columnSum hterms) names
    have hrest := ih fun c hc => hsums c (List.mem_cons_of_mem _ hc)
    have hzeros := exactly?_replicate_zero count
    cases hentry : (slackSign? c.relation : Option Number) with
    | none =>
      have hentry' : (slackSign? d.relation : Option Rat) = none :=
        slackSign?_eq_none_iff.2 (hrelation ▸ slackSign?_eq_none_iff.1 hentry)
      simp only [List.map_cons, slackRows, hentry, hentry', List.zipWith_cons_cons]
      exact .cons (exactly?_append hrow hzeros) (hrest next)
    | some entry =>
      obtain ⟨value, hentry', hvalue⟩ := toRat?_slackSign hentry
      rw [hrelation] at hentry'
      simp only [List.map_cons, slackRows, hentry, hentry', List.zipWith_cons_cons]
      exact .cons (exactly?_append hrow (exactly?_set hzeros hvalue next)) (hrest (next + 1))

end Assembly

namespace Model

variable {m : Model Number} {e : Model Rat}

/-- An exact model has as many inequalities, and they have the same names. -/
theorem inequalities_exact (he : m.rational? = some e) :
    m.assembled.inequalities.map (·.name) = e.assembled.inequalities.map (·.name) := by
  obtain ⟨-, hconstraints, -⟩ := rational?_eq_some_iff.1 he
  have hsame : List.Forall₂ (fun c d => Constraint.rational? c = some d)
      m.assembled.inequalities e.assembled.inequalities := by
    refine List.rel_filter (fun c d hcd => ?_) (mapM_eq_some_iff.1 hconstraints)
    simp only [(Constraint.rational?_eq_some_iff.1 hcd).2.1]
  rw [← List.forall₂_eq_eq_eq, List.forall₂_map_left_iff, List.forall₂_map_right_iff]
  exact hsame.imp fun c d hcd => (Constraint.rational?_eq_some_iff.1 hcd).1

theorem slacks_exact (he : m.rational? = some e) :
    e.standardForm.slacks = m.standardForm.slacks := by
  simpa [standardForm, Assembly.layout, Function.comp_def] using
    (congrArg (List.map Assembly.slackName) (inequalities_exact he)).symm

theorem exactly?_constants {constraints : List (Constraint Number)}
    {exact : List (Constraint Rat)} (h : constraints.mapM Constraint.rational? = some exact) :
    exactly? (constraints.map (·.constant)) = some (exact.map (·.constant)) := by
  rw [exactly?_eq_some_iff, List.forall₂_map_left_iff, List.forall₂_map_right_iff]
  exact (mapM_eq_some_iff.1 h).imp fun c d hcd => (Constraint.rational?_eq_some_iff.1 hcd).2.2.2

/-- **Reading a program exactly.** Where no addition is rounded, the program of a model is the
program of the exact model. -/
theorem readsAs_of_addsExactly (he : m.rational? = some e) (hadds : m.AddsExactly) :
    m.standardForm.ReadsAs e.standardForm := by
  obtain ⟨-, hconstraints, hobjective⟩ := rational?_eq_some_iff.1 he
  obtain ⟨-, hdirection, hterms⟩ := Objective.rational?_eq_some_iff.1 hobjective
  have hnames := variableNames_exact he
  have hcount : m.assembled.inequalities.length = e.assembled.inequalities.length := by
    simpa using congrArg List.length (inequalities_exact he)
  refine ⟨?_, ?_, ?_, hdirection, hnames.symm, (slacks_exact he).symm⟩
  · show (List.zipWith _ (m.constraints.map fun c => m.variableNames.map _)
      (Assembly.slackRows _ 0 m.constraints)).mapM exactly? = _
    rw [← hnames, hcount]
    exact Assembly.matrix_exact hconstraints hadds.1 _ _ 0
  · exact exactly?_constants hconstraints
  · show exactly? (m.variableNames.map _ ++ List.replicate _ 0) = _
    rw [← hnames, hcount]
    exact exactly?_append (exactly?_map (hadds.2.toRat?_columnSum hterms) _)
      (exactly?_replicate_zero _)

end Model

end LinearProgram
