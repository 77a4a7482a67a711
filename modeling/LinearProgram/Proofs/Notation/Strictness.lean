import LinearProgram.Proofs.Notation.Grammar
import LinearProgram.Proofs.Notation.Reading

/-!
# Strict and lenient policies

A policy is stricter than another when it refuses a second objective, or unusual operators, where
the other does not. Being stricter changes what is refused and nothing else.

**Statements** (`Statement.readConstraint_eq_ok_iff_lenient`). The strict reading of a constraint is
the lenient one with one more condition on the operator. So a draft says what statements say under
a policy when it does so under the lenient one, and the statements pass the two conditions of the
policy (`Draft.gathers_iff_lenient`).

**Faults** (`Document.FirstObjection`). A document that the lenient policy accepts is refused at the
first statement to which the policy objects. To see that the fault is of this statement, the two
runs are compared one statement at a time: up to an objection they pass through the same drafts
(`Draft.extend_or_objection`, `Draft.extendAll_or_objection`).

Main result: `Document.read_stricter`.
-/

namespace LinearProgram

/-- The policy refuses nothing that the other admits. -/
structure Policy.NoStricter (policy other : Policy) : Prop where
  repeatedObjective : policy.repeatedObjective = .refused → other.repeatedObjective = .refused
  strictOperators : policy.strictOperators = true → other.strictOperators = true

/-! ## Statements -/

namespace Statement

variable {policy : Policy} {s : Text}

/-- The statement is a constraint with an operator that the strict reading does not admit. -/
def HasLooseOperator (s : Text) : Prop :=
  ∃ f : ConstraintForm, f.text = s ∧ f.operator ∉ LinearProgram.Statement.strictOperators

theorem hasLooseOperator_text_iff {f : ConstraintForm} :
    HasLooseOperator f.text ↔ f.operator ∉ Statement.strictOperators := by
  constructor
  · rintro ⟨g, hg, hloose⟩
    rwa [← ConstraintForm.text_injective hg]
  · exact fun hloose => ⟨f, rfl, hloose⟩

/-- The strict reading is the lenient one with a condition on the operator. -/
theorem readConstraint_eq_ok_iff_lenient {strict : Bool} {c : Constraint Number} :
    readConstraint strict s = .ok c ↔
      readConstraint false s = .ok c ∧ (strict = true → ¬HasLooseOperator s) := by
  rw [readConstraint_eq_ok_iff, readConstraint_eq_ok_iff]
  constructor
  · rintro ⟨f, hadmitted, rfl, rfl⟩
    exact ⟨⟨f, by simp [ConstraintForm.Admitted], rfl, rfl⟩, fun hstrict =>
      mt hasLooseOperator_text_iff.1 (not_not.2 (hadmitted hstrict))⟩
  · rintro ⟨⟨f, -, rfl, rfl⟩, hloose⟩
    exact ⟨f, fun hstrict => not_not.1 (mt hasLooseOperator_text_iff.2 (hloose hstrict)), rfl, rfl⟩

theorem readable_iff_lenient : Readable policy s ↔ Readable {} s ∧
    (kind? s = some .constraint → policy.strictOperators = true → ¬HasLooseOperator s) := by
  unfold Readable
  cases hk : kind? s with
  | none => simp
  | some kind =>
    cases kind with
    | comment => simp
    | declaration => simp
    | objective => simp
    | constraint =>
      simp only [@readConstraint_eq_ok_iff_lenient s policy.strictOperators, true_imp_iff,
        exists_and_right]

end Statement

open Statement

/-! ## Statements together -/

/-- **What a policy adds to the lenient one.** There is no second objective if that is refused, and
no unusual operator if these are refused. -/
theorem Draft.gathers_iff_lenient {policy : Policy} {done : List Text} {draft : Draft} :
    Gathers policy done draft ↔ Gathers {} done draft ∧
      (policy.repeatedObjective = .refused → (Document.ofKind .objective done).length ≤ 1) ∧
      (policy.strictOperators = true →
        ∀ s ∈ Document.ofKind .constraint done, ¬HasLooseOperator s) := by
  have hmap (strict : Bool) : (Document.ofKind .constraint done).map (readConstraint strict) =
      draft.constraints.map .ok ↔ List.Forall₂ (fun s c => readConstraint strict s = .ok c)
        (Document.ofKind .constraint done) draft.constraints := by
    rw [← List.forall₂_eq_eq_eq, List.forall₂_map_left_iff, List.forall₂_map_right_iff]
  have hconstraints : (Document.ofKind .constraint done).map
      (readConstraint policy.strictOperators) = draft.constraints.map .ok ↔
        (∀ s ∈ Document.ofKind .constraint done,
          policy.strictOperators = true → ¬HasLooseOperator s) ∧
        (Document.ofKind .constraint done).map (readConstraint false) =
          draft.constraints.map .ok := by
    rw [hmap, hmap, ← List.forall₂_and_left]
    simp only [@readConstraint_eq_ok_iff_lenient _ policy.strictOperators, and_comm]
  constructor
  · intro h
    obtain ⟨hloose, hlenient⟩ := hconstraints.1 h.constraints
    exact ⟨⟨fun s hs => (readable_iff_lenient.1 (h.readable s hs)).1, h.declarations, hlenient,
      h.objective, by simp⟩, h.once, fun hstrict s hs => hloose s hs hstrict⟩
  · rintro ⟨h, honce, hloose⟩
    refine ⟨fun s hs => readable_iff_lenient.2 ⟨h.readable s hs, fun hk hstrict => ?_⟩,
      h.declarations, hconstraints.2 ⟨fun s hs hstrict => hloose hstrict s hs, h.constraints⟩,
      h.objective, honce⟩
    exact hloose hstrict s (List.mem_filter.2 ⟨hs, by simpa using hk⟩)

/-- Under a policy that is no stricter, the draft says the same. -/
theorem Draft.Gathers.of_noStricter {policy other : Policy} {done : List Text} {draft : Draft}
    (h : Gathers other done draft) (hle : policy.NoStricter other) : Gathers policy done draft := by
  obtain ⟨hlenient, honce, hloose⟩ := gathers_iff_lenient.1 h
  exact gathers_iff_lenient.2 ⟨hlenient, fun hp => honce (hle.repeatedObjective hp),
    fun hp => hloose (hle.strictOperators hp)⟩

/-! ## Objections -/

namespace Document

/-- Why a policy refuses a statement that the lenient one admits, when it comes after others: it is
a second objective, or a constraint with an unusual operator. -/
inductive Objection (policy : Policy) (before : List Text) (s : Text) : Fault → Prop
  | repeated : policy.repeatedObjective = .refused → kind? s = some .objective →
      ofKind .objective before ≠ [] →
      Objection policy before s (Cause.repeatedObjective.inStatement s)
  | operator {f : ConstraintForm} : policy.strictOperators = true →
      kind? s = some .constraint → f.text = s → f.operator ∉ Statement.strictOperators →
      Objection policy before s
        (Cause.inStatement (.incomplete (.unsupportedOperator f.operator)) s)

/-- There is no objection to any of the statements. -/
def Unobjectionable (policy : Policy) (statements : List Text) : Prop :=
  ∀ before s after, statements = before ++ s :: after → ∀ fault, ¬Objection policy before s fault

/-- The fault of the first statement to which there is an objection. -/
def FirstObjection (policy : Policy) (statements : List Text) (fault : Fault) : Prop :=
  ∃ before s after, statements = before ++ s :: after ∧ Unobjectionable policy before ∧
    Objection policy before s fault

variable {policy : Policy} {before statements : List Text} {s : Text} {fault other : Fault}

theorem Objection.unique (h : Objection policy before s fault)
    (hother : Objection policy before s other) : fault = other := by
  cases h with
  | repeated _ hk _ =>
    cases hother with
    | repeated _ _ _ => rfl
    | operator _ hk' _ _ => simp [hk] at hk'
  | @operator f _ hk hf _ =>
    cases hother with
    | repeated _ hk' _ => simp [hk] at hk'
    | operator _ _ hg _ => rw [ConstraintForm.text_injective (hf.trans hg.symm)]

/-- There is one first objection. -/
theorem FirstObjection.unique (h : FirstObjection policy statements fault)
    (hother : FirstObjection policy statements other) : fault = other := by
  obtain ⟨before, s, after, rfl, hbefore, hs⟩ := h
  obtain ⟨before', s', after', hsplit, hbefore', hs'⟩ := hother
  rcases List.append_eq_append_iff.1 hsplit with ⟨rest, rfl, hrest⟩ | ⟨rest, rfl, hrest⟩
  · cases rest with
    | nil =>
      obtain ⟨rfl, -⟩ := List.cons.inj hrest
      exact hs.unique (by simpa using hs')
    | cons r rest =>
      obtain ⟨rfl, -⟩ := List.cons.inj hrest
      exact absurd hs (hbefore' before s rest rfl fault)
  · cases rest with
    | nil =>
      obtain ⟨rfl, -⟩ := List.cons.inj hrest
      exact Objection.unique (by simpa using hs) hs'
    | cons r rest =>
      obtain ⟨rfl, -⟩ := List.cons.inj hrest
      exact absurd hs' (hbefore before' s' rest rfl other)

theorem FirstObjection.append (h : FirstObjection policy statements fault) (rest : List Text) :
    FirstObjection policy (statements ++ rest) fault := by
  obtain ⟨before, s, after, rfl, hbefore, hs⟩ := h
  exact ⟨before, s, after ++ rest, by simp, hbefore, hs⟩

theorem unobjectionable_nil (policy : Policy) : Unobjectionable policy [] := by
  intro before s after h
  simp at h

theorem Unobjectionable.concat (h : Unobjectionable policy statements)
    (hs : ∀ fault, ¬Objection policy statements s fault) :
    Unobjectionable policy (statements ++ [s]) := by
  intro before r after hsplit
  induction after using List.reverseRecOn with
  | nil =>
    obtain ⟨rfl, hr⟩ := List.append_inj' hsplit rfl
    obtain rfl : s = r := by simpa using hr
    exact hs
  | append_singleton after last _ =>
    rw [← List.cons_append, ← List.append_assoc] at hsplit
    exact h before r after (List.append_inj' hsplit rfl).1

theorem FirstObjection.not_unobjectionable (h : FirstObjection policy statements fault) :
    ¬Unobjectionable policy statements := by
  obtain ⟨before, s, after, hsplit, -, hs⟩ := h
  exact fun hall => hall before s after hsplit fault hs

end Document

/-! ## Runs -/

namespace Draft

variable {policy : Policy} {done : List Text} {draft next : Draft} {s : Text}

/-- **One statement** that the lenient policy accepts is accepted in the same way, or there is an
objection to it. -/
theorem extend_or_objection (hdone : Gathers {} done draft) (h : draft.extend {} s = .ok next)
    (policy : Policy) :
    (draft.extend policy s = .ok next ∧ ∀ fault, ¬Document.Objection policy done s fault) ∨
      ∃ fault, Document.Objection policy done s fault ∧ draft.extend policy s = .error fault := by
  cases extend_eq_ok_iff.1 h with
  | comment hk =>
    refine Or.inl ⟨extend_eq_ok_iff.2 (.comment hk), fun fault hobjection => ?_⟩
    cases hobjection <;> simp_all
  | declaration hk hs =>
    refine Or.inl ⟨extend_eq_ok_iff.2 (.declaration hk hs), fun fault hobjection => ?_⟩
    cases hobjection <;> simp_all
  | constraint hk hs =>
    by_cases hloose : policy.strictOperators = true ∧ HasLooseOperator s
    · obtain ⟨hstrict, f, rfl, hoperator⟩ := hloose
      refine Or.inr ⟨_, .operator hstrict hk rfl hoperator, ?_⟩
      simp only [extend, classify_of_kind? hk, hstrict, readConstraint_of_not_mem hoperator]
    · rw [not_and] at hloose
      have hread := readConstraint_eq_ok_iff_lenient.2 ⟨hs, hloose⟩
      refine Or.inl ⟨extend_eq_ok_iff.2 (.constraint hk hread), fun fault hobjection => ?_⟩
      cases hobjection with
      | repeated _ hk' _ => simp [hk] at hk'
      | operator hstrict _ hf hoperator => exact hloose hstrict ⟨_, hf, hoperator⟩
  | objective hk hs _ =>
    by_cases hrepeated : policy.repeatedObjective = .refused ∧ draft.objective ≠ none
    · obtain ⟨hp, hsome⟩ := hrepeated
      refine Or.inr ⟨_, .repeated hp hk (mt hdone.objective_eq_none_iff.2 hsome), ?_⟩
      have hsome : draft.objective.isSome = true := Option.isSome_iff_ne_none.2 hsome
      simp [extend, classify_of_kind? hk, hs, hp, hsome]
    · rw [not_and, not_not] at hrepeated
      refine Or.inl ⟨extend_eq_ok_iff.2 (.objective hk hs hrepeated), fun fault hobjection => ?_⟩
      cases hobjection with
      | repeated hp _ hne => exact hne (hdone.objective_eq_none_iff.1 (hrepeated hp))
      | operator _ hk' _ _ => simp [hk] at hk'

/-- **A run** that the lenient policy accepts ends in the same draft, or fails at the first
objection. -/
theorem extendAll_or_objection {statements : List Text} {final : Draft}
    (h : extendAll {} {} statements = .ok final) (policy : Policy) :
    (extendAll policy {} statements = .ok final ∧
        Document.Unobjectionable policy statements) ∨
      ∃ fault, Document.FirstObjection policy statements fault ∧
        extendAll policy {} statements = .error fault := by
  -- From the end of the list, so that all statements before the last have been gathered.
  induction statements using List.reverseRecOn generalizing final with
  | nil => exact Or.inl ⟨h, Document.unobjectionable_nil policy⟩
  | append_singleton statements s ih =>
    rw [extendAll_append] at h ⊢
    cases hrun : extendAll {} {} statements with
    | error fault => simp [hrun] at h
    | ok middle =>
      have hdone := (gathers_nil {}).extendAll hrun
      rw [List.nil_append] at hdone
      have hs : middle.extend {} s = .ok final := by
        simp only [hrun, extendAll] at h
        cases hs : middle.extend {} s with
        | error fault => simp [hs] at h
        | ok last => simpa [hs] using h
      rcases ih hrun with ⟨hsame, hnone⟩ | ⟨fault, hfirst, hfault⟩
      · simp only [hsame, extendAll]
        rcases extend_or_objection hdone hs policy with ⟨hlast, hs⟩ | ⟨fault, hobjection, hfault⟩
        · exact Or.inl ⟨by rw [hlast], hnone.concat hs⟩
        · exact Or.inr ⟨fault, ⟨statements, s, [], rfl, hnone, hobjection⟩, by rw [hfault]⟩
      · exact Or.inr ⟨fault, hfirst.append [s], by rw [hfault]⟩

end Draft

/-! ## Documents -/

namespace Document

variable {policy : Policy} {text : Text} {m : Model Number}

/-- A document that the lenient policy accepts is read as the same model, or there is a first
objection, which is its fault. -/
theorem read_or_objection (h : read {} text = .ok m) (policy : Policy) :
    (read policy text = .ok m ∧ Unobjectionable policy (statements text)) ∨
      ∃ fault, FirstObjection policy (statements text) fault ∧
        read policy text = .error fault := by
  rw [read] at h ⊢
  cases hrun : Draft.extendAll {} {} (statements text) with
  | error fault => simp [hrun] at h
  | ok draft =>
    simp only [hrun] at h
    rcases Draft.extendAll_or_objection hrun policy with ⟨hsame, hnone⟩ | ⟨fault, hfirst, hfault⟩
    · exact Or.inl ⟨by rw [hsame]; exact h, hnone⟩
    · exact Or.inr ⟨fault, hfirst, by rw [hfault]⟩

/-- A document that the lenient policy accepts is accepted under the conditions of the policy. -/
theorem read_eq_ok_iff_of_lenient (h : read {} text = .ok m) (policy : Policy) :
    read policy text = .ok m ↔
      (policy.repeatedObjective = .refused →
        (ofKind .objective (statements text)).length ≤ 1) ∧
      (policy.strictOperators = true →
        ∀ s ∈ ofKind .constraint (statements text), ¬HasLooseOperator s) := by
  rw [read_eq_ok_iff] at h ⊢
  rw [Draft.gathers_iff_lenient]
  exact and_iff_right h

/-- **Stricter policies** accept fewer documents and read those that they accept in the same way.
What the lenient policy accepts they refuse at the first objection. -/
theorem read_stricter (text : Text) :
    (∀ policy other : Policy, policy.NoStricter other → ∀ m,
      read other text = .ok m → read policy text = .ok m) ∧
    ∀ m, read {} text = .ok m → ∀ policy : Policy,
      ((∃ fault, read policy text = .error fault) ↔
        policy.repeatedObjective = .refused ∧ 2 ≤ (ofKind .objective (statements text)).length ∨
        policy.strictOperators = true ∧
          ∃ s ∈ ofKind .constraint (statements text), HasLooseOperator s) ∧
      ∀ fault, read policy text = .error fault ↔
        FirstObjection policy (statements text) fault := by
  refine ⟨fun policy other hle m hm => ?_, fun m hm policy => ⟨?_, fun fault => ?_⟩⟩
  · exact read_eq_ok_iff.2 ((read_eq_ok_iff.1 hm).of_noStricter hle)
  · have hfails : (∃ fault, read policy text = .error fault) ↔ read policy text ≠ .ok m := by
      rcases read_or_objection hm policy with ⟨hok, -⟩ | ⟨fault, -, hfault⟩
      · simp [hok]
      · simp [hfault]
    rw [hfails, ne_eq, read_eq_ok_iff_of_lenient hm policy]
    simp only [not_and_or, Classical.not_imp, not_le, not_forall, not_not]
    rfl
  · rcases read_or_objection hm policy with ⟨hok, hnone⟩ | ⟨other, hfirst, hother⟩
    · simp only [hok, reduceCtorEq, false_iff]
      exact fun hfault => hfault.not_unobjectionable hnone
    · simp only [hother, Except.error.injEq]
      exact ⟨fun heq => heq ▸ hfirst, fun hfault => hfirst.unique hfault⟩

/-- Two objectives, and before the second of them a constraint with an unusual operator. -/
def looselyWritten : Text :=
  "maximize f: x; var x; subject to c: x =< 1; minimize g: x; subject to d: x >> 0".toList

theorem read_stricter_looselyWritten :
    ∃ m, read {} looselyWritten = .ok m ∧ read ⟨.refused, true⟩ looselyWritten = .error
        (Cause.inStatement (.incomplete (.unsupportedOperator "=<".toList))
          "subject to c: x =< 1".toList) ∧
      FirstObjection ⟨.refused, true⟩ (statements looselyWritten)
        (Cause.inStatement (.incomplete (.unsupportedOperator "=<".toList))
          "subject to c: x =< 1".toList) := by
  have hread : ∃ m, read {} looselyWritten = .ok m := of_decide_eq_true (by decide +kernel)
  obtain ⟨m, hm⟩ := hread
  have hfault : read ⟨.refused, true⟩ looselyWritten = .error
      (Cause.inStatement (.incomplete (.unsupportedOperator "=<".toList))
        "subject to c: x =< 1".toList) := by decide +kernel
  exact ⟨m, hm, hfault, (((read_stricter looselyWritten).2 m hm _).2 _).1 hfault⟩

end Document

end LinearProgram
