import Mathlib.Data.List.Basic
import LinearProgram.Notation.Document

/-!
# What reading a document gathers

Reading goes through the statements with a draft. What the draft says is at every point exactly what
the statements before that point say: `Draft.Gathers` is that invariant, `Gathers.extend` is its
step and `Gathers.extendAll` its run.

**When reading succeeds** (`Document.read_gathers`). Every statement has a kind and is accepted by
the reader of its kind, there is an objective, and it is the only one where a second one is refused.
The model then lists what the declarations and the constraints read as, in document order, and
holds what the last objective reads as.
-/

namespace LinearProgram

/-! ## Statements by themselves -/

namespace Statement

/-- The statement has a kind and is accepted by the reader of its kind. Comments are not read. -/
def Readable (policy : Policy) (s : Text) : Prop :=
  match kind? s with
  | none => False
  | some .comment => True
  | some .declaration => ∃ t, readDeclaration s = .ok t
  | some .objective => ∃ o, readObjective s = .ok o
  | some .constraint => ∃ c, readConstraint policy.strictOperators s = .ok c

instance decidableSucceeds {ε α : Type} :
    (result : Except ε α) → Decidable (∃ value, result = .ok value)
  | .ok value => isTrue ⟨value, rfl⟩
  | .error _ => isFalse (by simp)

instance decidableReadable (policy : Policy) (s : Text) : Decidable (Readable policy s) := by
  unfold Readable
  split <;> infer_instance

/-- The statement is of no kind, or the reader of its kind refuses it with a fault. -/
inductive Refused (policy : Policy) (s : Text) : Fault → Prop
  | kind : kind? s = none → Refused policy s (Cause.unknownStatement.inStatement s)
  | declaration {fault : Fault} : kind? s = some .declaration →
      readDeclaration s = .error fault → Refused policy s fault
  | objective {fault : Fault} : kind? s = some .objective →
      readObjective s = .error fault → Refused policy s fault
  | constraint {fault : Fault} : kind? s = some .constraint →
      readConstraint policy.strictOperators s = .error fault → Refused policy s fault

theorem classify_of_kind? {kind : Kind} {s : Text} (h : kind? s = some kind) :
    classify s = .ok kind := by
  simp [classify, h]

theorem classify_of_no_kind {s : Text} (h : kind? s = none) :
    classify s = .error (Cause.unknownStatement.inStatement s) := by
  simp [classify, h]

theorem readable_of_comment {policy : Policy} {s : Text} (h : kind? s = some .comment) :
    Readable policy s := by
  simp [Readable, h]

theorem readable_of_declaration {policy : Policy} {s : Text} {t : Term Number}
    (h : kind? s = some .declaration) (hs : readDeclaration s = .ok t) : Readable policy s := by
  simp [Readable, h, hs]

theorem readable_of_objective {policy : Policy} {s : Text} {o : Objective Number}
    (h : kind? s = some .objective) (hs : readObjective s = .ok o) : Readable policy s := by
  simp [Readable, h, hs]

theorem readable_of_constraint {policy : Policy} {s : Text} {c : Constraint Number}
    (h : kind? s = some .constraint) (hs : readConstraint policy.strictOperators s = .ok c) :
    Readable policy s := by
  simp [Readable, h, hs]

/-- A statement is either accepted or refused. -/
theorem not_readable_iff {policy : Policy} {s : Text} :
    ¬Readable policy s ↔ ∃ fault, Refused policy s fault := by
  constructor
  · intro h
    cases hk : kind? s with
    | none => exact ⟨_, .kind hk⟩
    | some kind =>
      cases kind with
      | comment => exact absurd (readable_of_comment hk) h
      | declaration =>
        cases hs : readDeclaration s with
        | ok t => exact absurd (readable_of_declaration hk hs) h
        | error fault => exact ⟨fault, .declaration hk hs⟩
      | objective =>
        cases hs : readObjective s with
        | ok o => exact absurd (readable_of_objective hk hs) h
        | error fault => exact ⟨fault, .objective hk hs⟩
      | constraint =>
        cases hs : readConstraint policy.strictOperators s with
        | ok c => exact absurd (readable_of_constraint hk hs) h
        | error fault => exact ⟨fault, .constraint hk hs⟩
  · rintro ⟨fault, h⟩
    cases h with
    | kind hk => simp [Readable, hk]
    | declaration hk hs => simp [Readable, hk, hs]
    | objective hk hs => simp [Readable, hk, hs]
    | constraint hk hs => simp [Readable, hk, hs]

end Statement

/-- The statements of one kind, in order. -/
def Document.ofKind (kind : Statement.Kind) (statements : List Text) : List Text :=
  statements.filter fun s => Statement.kind? s = some kind

namespace Document

theorem ofKind_append (kind : Statement.Kind) (first second : List Text) :
    ofKind kind (first ++ second) = ofKind kind first ++ ofKind kind second :=
  List.filter_append ..

theorem ofKind_concat_self {kind : Statement.Kind} {s : Text}
    (h : Statement.kind? s = some kind) (done : List Text) :
    ofKind kind (done ++ [s]) = ofKind kind done ++ [s] := by
  simp [ofKind, h]

theorem ofKind_concat_of_ne {kind other : Statement.Kind} {s : Text}
    (h : Statement.kind? s = some other) (hne : other ≠ kind) (done : List Text) :
    ofKind kind (done ++ [s]) = ofKind kind done := by
  simp [ofKind, h, hne]

end Document

/-! ## One statement -/

namespace Draft

/-- What reading one more statement can do to a draft. -/
inductive Step (policy : Policy) (s : Text) : Draft → Draft → Prop
  | comment {draft : Draft} : Statement.kind? s = some .comment → Step policy s draft draft
  | declaration {draft : Draft} {t : Term Number} : Statement.kind? s = some .declaration →
      Statement.readDeclaration s = .ok t →
      Step policy s draft { draft with declarations := draft.declarations ++ [t] }
  | constraint {draft : Draft} {c : Constraint Number} : Statement.kind? s = some .constraint →
      Statement.readConstraint policy.strictOperators s = .ok c →
      Step policy s draft { draft with constraints := draft.constraints ++ [c] }
  | objective {draft : Draft} {o : Objective Number} : Statement.kind? s = some .objective →
      Statement.readObjective s = .ok o →
      (policy.repeatedObjective = .refused → draft.objective = none) →
      Step policy s draft { draft with objective := some o }

/-- Why reading one more statement can fail. -/
inductive Stuck (policy : Policy) (s : Text) (draft : Draft) : Fault → Prop
  | refused {fault : Fault} : Statement.Refused policy s fault → Stuck policy s draft fault
  | repeated : Statement.kind? s = some .objective → Statement.Readable policy s →
      policy.repeatedObjective = .refused → draft.objective.isSome = true →
      Stuck policy s draft (Cause.repeatedObjective.inStatement s)

variable {policy : Policy} {s : Text} {draft next : Draft} {fault : Fault}

/-- **One statement that is accepted.** -/
theorem extend_eq_ok_iff : draft.extend policy s = .ok next ↔ Step policy s draft next := by
  constructor
  · intro h
    cases hk : Statement.kind? s with
    | none => simp [extend, Statement.classify_of_no_kind hk] at h
    | some kind =>
      simp only [extend, Statement.classify_of_kind? hk] at h
      cases kind with
      | comment =>
        obtain rfl : draft = next := by simpa using h
        exact .comment hk
      | declaration =>
        cases hs : Statement.readDeclaration s with
        | error fault => simp [hs] at h
        | ok t =>
          obtain rfl : _ = next := by simpa [hs] using h
          exact .declaration hk hs
      | constraint =>
        cases hs : Statement.readConstraint policy.strictOperators s with
        | error fault => simp [hs] at h
        | ok c =>
          obtain rfl : _ = next := by simpa [hs] using h
          exact .constraint hk hs
      | objective =>
        cases hs : Statement.readObjective s with
        | error fault => simp [hs] at h
        | ok o =>
          simp only [hs] at h
          split at h
          · simp at h
          · rename_i hfree
            obtain rfl : _ = next := by simpa using h
            exact .objective hk hs fun hp => by simpa [hp] using hfree
  · intro h
    cases h with
    | comment hk => simp [extend, Statement.classify_of_kind? hk]
    | declaration hk hs => simp [extend, Statement.classify_of_kind? hk, hs]
    | constraint hk hs => simp [extend, Statement.classify_of_kind? hk, hs]
    | objective hk hs hfree =>
      have : ¬(draft.objective.isSome = true ∧ policy.repeatedObjective = .refused) := by
        rintro ⟨hsome, hp⟩
        simp [hfree hp] at hsome
      simp [extend, Statement.classify_of_kind? hk, hs, this]

theorem stuck_of_extend (h : draft.extend policy s = .error fault) :
    Stuck policy s draft fault := by
  cases hk : Statement.kind? s with
  | none =>
    obtain rfl : _ = fault := by simpa [extend, Statement.classify_of_no_kind hk] using h
    exact .refused (.kind hk)
  | some kind =>
    simp only [extend, Statement.classify_of_kind? hk] at h
    cases kind with
    | comment => simp at h
    | declaration =>
      cases hs : Statement.readDeclaration s with
      | ok t => simp [hs] at h
      | error why =>
        obtain rfl : why = fault := by simpa [hs] using h
        exact .refused (.declaration hk hs)
    | constraint =>
      cases hs : Statement.readConstraint policy.strictOperators s with
      | ok c => simp [hs] at h
      | error why =>
        obtain rfl : why = fault := by simpa [hs] using h
        exact .refused (.constraint hk hs)
    | objective =>
      cases hs : Statement.readObjective s with
      | error why =>
        obtain rfl : why = fault := by simpa [hs] using h
        exact .refused (.objective hk hs)
      | ok o =>
        simp only [hs] at h
        split at h
        · rename_i hrepeated
          obtain rfl : _ = fault := by simpa using h
          have hboth : draft.objective.isSome = true ∧ policy.repeatedObjective = .refused := by
            simpa using hrepeated
          exact .repeated hk (Statement.readable_of_objective hk hs) hboth.2 hboth.1
        · simp at h

/-! ## The statements read so far -/

/-- The draft says what the statements say. -/
structure Gathers (policy : Policy) (statements : List Text) (draft : Draft) : Prop where
  readable : ∀ s ∈ statements, Statement.Readable policy s
  declarations : (Document.ofKind .declaration statements).map Statement.readDeclaration =
    draft.declarations.map .ok
  constraints : (Document.ofKind .constraint statements).map
    (Statement.readConstraint policy.strictOperators) = draft.constraints.map .ok
  objective : (Document.ofKind .objective statements).getLast?.map Statement.readObjective =
    draft.objective.map .ok
  once : policy.repeatedObjective = .refused →
    (Document.ofKind .objective statements).length ≤ 1

variable {done rest : List Text}

theorem gathers_nil (policy : Policy) : Gathers policy [] {} where
  readable := by simp
  declarations := rfl
  constraints := rfl
  objective := rfl
  once := by simp [Document.ofKind]

/-- The draft has an objective exactly when one has been read. -/
theorem Gathers.objective_eq_none_iff (h : Gathers policy done draft) :
    draft.objective = none ↔ Document.ofKind .objective done = [] := by
  have := congrArg Option.isNone h.objective
  rw [Option.isNone_map, Option.isNone_map] at this
  rw [← List.getLast?_eq_none_iff, ← Option.isNone_iff_eq_none, ← Option.isNone_iff_eq_none, this]

/-- There is one draft that says what the statements say. -/
theorem Gathers.unique (h : Gathers policy done draft) (hnext : Gathers policy done next) :
    draft = next := by
  have hinj {α : Type} : Function.Injective (Except.ok (ε := Fault) (α := α)) := fun a b hab =>
    Except.ok.inj hab
  obtain ⟨declarations, constraints, objective⟩ := draft
  obtain ⟨declarations', constraints', objective'⟩ := next
  obtain rfl : declarations = declarations' :=
    hinj.list_map (h.declarations.symm.trans hnext.declarations)
  obtain rfl : constraints = constraints' :=
    hinj.list_map (h.constraints.symm.trans hnext.constraints)
  obtain rfl : objective = objective' :=
    Option.map_injective hinj (h.objective.symm.trans hnext.objective)
  rfl

/-- **One more statement.** What the draft says afterwards is what the statements say with it. -/
theorem Gathers.extend (h : Gathers policy done draft) (hs : Step policy s draft next) :
    Gathers policy (done ++ [s]) next := by
  have hreadable (hr : Statement.Readable policy s) :
      ∀ r ∈ done ++ [s], Statement.Readable policy r := by
    intro r hmem
    rcases List.mem_append.1 hmem with hmem | hmem
    · exact h.readable r hmem
    · rwa [List.mem_singleton.1 hmem]
  cases hs with
  | comment hk =>
    refine ⟨hreadable (Statement.readable_of_comment hk), ?_, ?_, ?_, ?_⟩ <;>
      rw [Document.ofKind_concat_of_ne hk (by decide)]
    · exact h.declarations
    · exact h.constraints
    · exact h.objective
    · exact h.once
  | declaration hk hr =>
    refine ⟨hreadable (Statement.readable_of_declaration hk hr), ?_, ?_, ?_, ?_⟩
    · rw [Document.ofKind_concat_self hk, List.map_append,
        h.declarations, List.map_append, List.map_singleton, hr, List.map_singleton]
    · rw [Document.ofKind_concat_of_ne hk (by decide)]; exact h.constraints
    · rw [Document.ofKind_concat_of_ne hk (by decide)]; exact h.objective
    · rw [Document.ofKind_concat_of_ne hk (by decide)]; exact h.once
  | constraint hk hr =>
    refine ⟨hreadable (Statement.readable_of_constraint hk hr), ?_, ?_, ?_, ?_⟩
    · rw [Document.ofKind_concat_of_ne hk (by decide)]; exact h.declarations
    · rw [Document.ofKind_concat_self hk, List.map_append,
        h.constraints, List.map_append, List.map_singleton, hr, List.map_singleton]
    · rw [Document.ofKind_concat_of_ne hk (by decide)]; exact h.objective
    · rw [Document.ofKind_concat_of_ne hk (by decide)]; exact h.once
  | objective hk hr hfree =>
    refine ⟨hreadable (Statement.readable_of_objective hk hr), ?_, ?_, ?_, fun hp => ?_⟩
    · rw [Document.ofKind_concat_of_ne hk (by decide)]; exact h.declarations
    · rw [Document.ofKind_concat_of_ne hk (by decide)]; exact h.constraints
    · rw [Document.ofKind_concat_self hk, List.getLast?_concat, Option.map_some, hr,
        Option.map_some]
    · -- Where a second objective is refused, there has been none before this one.
      rw [Document.ofKind_concat_self hk, h.objective_eq_none_iff.1 (hfree hp)]
      simp

/-! ## Runs of statements -/

/-- **A run that succeeds.** -/
theorem Gathers.extendAll (h : Gathers policy done draft)
    (hrun : draft.extendAll policy rest = .ok next) : Gathers policy (done ++ rest) next := by
  induction rest generalizing done draft with
  | nil =>
    obtain rfl : draft = next := by simpa using hrun
    rwa [List.append_nil]
  | cons s rest ih =>
    rw [Draft.extendAll] at hrun
    cases hs : draft.extend policy s with
    | error fault => simp [hs] at hrun
    | ok middle =>
      simp only [hs] at hrun
      have := ih (h.extend (extend_eq_ok_iff.1 hs)) hrun
      rwa [List.append_assoc, List.singleton_append] at this

/-- **A run that fails.** It stops at one of the statements; those before it have been gathered. -/
theorem Gathers.exists_stuck (h : Gathers policy done draft)
    (hrun : draft.extendAll policy rest = .error fault) :
    ∃ before s after last, rest = before ++ s :: after ∧
      Gathers policy (done ++ before) last ∧ Stuck policy s last fault := by
  induction rest generalizing done draft with
  | nil => simp at hrun
  | cons s rest ih =>
    rw [Draft.extendAll] at hrun
    cases hs : draft.extend policy s with
    | error why =>
      obtain rfl : why = fault := by simpa [hs] using hrun
      exact ⟨[], s, rest, draft, rfl, by rwa [List.append_nil], stuck_of_extend hs⟩
    | ok middle =>
      simp only [hs] at hrun
      obtain ⟨before, r, after, last, hrest, hlast, hstuck⟩ :=
        ih (h.extend (extend_eq_ok_iff.1 hs)) hrun
      refine ⟨s :: before, r, after, last, by rw [hrest, List.cons_append], ?_, hstuck⟩
      rwa [List.append_assoc, List.singleton_append] at hlast

/-- **A run that cannot fail.** Every statement is accepted, and a second objective is no fault. -/
theorem Gathers.exists_extendAll (h : Gathers policy done draft)
    (hreadable : ∀ s ∈ rest, Statement.Readable policy s)
    (honce : policy.repeatedObjective = .refused →
      (Document.ofKind .objective (done ++ rest)).length ≤ 1) :
    ∃ next, draft.extendAll policy rest = .ok next := by
  cases hrun : draft.extendAll policy rest with
  | ok next => exact ⟨next, rfl⟩
  | error fault =>
    obtain ⟨before, s, after, last, rfl, hlast, hstuck⟩ := h.exists_stuck hrun
    cases hstuck with
    | refused hs =>
      exact absurd (hreadable s (by simp)) (Statement.not_readable_iff.2 ⟨fault, hs⟩)
    | repeated hk _ hp hsome =>
      have hone : Document.ofKind .objective (done ++ before) ≠ [] := fun hnil => by
        simp [hlast.objective_eq_none_iff.2 hnil] at hsome
      have hsplit : done ++ (before ++ s :: after) = (done ++ before ++ [s]) ++ after := by simp
      have hle := honce hp
      rw [hsplit, Document.ofKind_append, Document.ofKind_concat_self hk] at hle
      have := List.length_pos_iff.2 hone
      simp only [List.length_append, List.length_singleton] at hle
      omega

end Draft

/-! ## Documents -/

namespace Document

variable {policy : Policy} {text : Text} {m : Model Number}

/-- A model that is read comes from a draft that says what the statements say. -/
theorem exists_gathers_of_read (h : read policy text = .ok m) :
    Draft.Gathers policy (statements text) ⟨m.declarations, m.constraints, some m.objective⟩ := by
  rw [read] at h
  cases hrun : Draft.extendAll policy {} (statements text) with
  | error fault => simp [hrun] at h
  | ok draft =>
    have hdraft := (Draft.gathers_nil policy).extendAll hrun
    rw [List.nil_append] at hdraft
    simp only [hrun, Draft.finish] at h
    cases ho : draft.objective with
    | none => simp [ho] at h
    | some objective =>
      obtain rfl : _ = m := by simpa [ho] using h
      obtain ⟨declarations, constraints, _⟩ := draft
      obtain rfl : _ = some objective := ho
      exact hdraft

/-- **A document is read as what its statements say**, and in no other way. -/
theorem read_eq_ok_iff : read policy text = .ok m ↔
    Draft.Gathers policy (statements text) ⟨m.declarations, m.constraints, some m.objective⟩ := by
  constructor
  · exact exists_gathers_of_read
  · intro h
    obtain ⟨draft, hrun⟩ := (Draft.gathers_nil policy).exists_extendAll h.readable h.once
    have hdraft := (Draft.gathers_nil policy).extendAll hrun
    rw [List.nil_append] at hdraft
    obtain rfl := hdraft.unique h
    simp only [read, hrun, Draft.finish]

/-- **When reading succeeds, and what is read.** -/
theorem read_gathers (policy : Policy) (text : Text) :
    ((∃ m, read policy text = .ok m) ↔
      (∀ s ∈ statements text, Statement.Readable policy s) ∧
        ofKind .objective (statements text) ≠ [] ∧
        (policy.repeatedObjective = .refused →
          (ofKind .objective (statements text)).length = 1)) ∧
    ∀ m, read policy text = .ok m →
      (ofKind .declaration (statements text)).map Statement.readDeclaration =
        m.declarations.map .ok ∧
      (ofKind .constraint (statements text)).map
        (Statement.readConstraint policy.strictOperators) = m.constraints.map .ok ∧
      (ofKind .objective (statements text)).getLast?.map Statement.readObjective =
        some (.ok m.objective) := by
  refine ⟨⟨?_, ?_⟩, fun m hm => ?_⟩
  · rintro ⟨m, hm⟩
    have h := exists_gathers_of_read hm
    have hne : ofKind .objective (statements text) ≠ [] := fun hnil =>
      absurd (h.objective_eq_none_iff.2 hnil) (by simp)
    refine ⟨h.readable, hne, fun hp => ?_⟩
    have hle := h.once hp
    have hpos := List.length_pos_iff.2 hne
    omega
  · rintro ⟨hreadable, hne, honce⟩
    have hrun := (Draft.gathers_nil policy).exists_extendAll hreadable fun hp => by
      rw [List.nil_append]
      exact Nat.le_of_eq (honce hp)
    obtain ⟨draft, hrun⟩ := hrun
    have hdraft := (Draft.gathers_nil policy).extendAll hrun
    rw [List.nil_append] at hdraft
    have hsome : draft.objective ≠ none := fun hnone => hne (hdraft.objective_eq_none_iff.1 hnone)
    obtain ⟨objective, ho⟩ := Option.ne_none_iff_exists'.1 hsome
    exact ⟨⟨draft.declarations, draft.constraints, objective⟩, by
      simp only [read, hrun, Draft.finish, ho]⟩
  · have h := exists_gathers_of_read hm
    exact ⟨h.declarations, h.constraints, h.objective⟩

/-- Constraints on both sides of the only objective; the second one is a comment. -/
def constraintsAroundObjective : Text :=
  "subject to low: x >= 1; # maximize g: x; minimize f: 2*x; var x; subject to high: x <= 4".toList

theorem read_gathers_around_objective :
    ∃ m, read ⟨.refused, true⟩ constraintsAroundObjective = .ok m ∧
      (ofKind .declaration (statements constraintsAroundObjective)).map
        Statement.readDeclaration = m.declarations.map .ok ∧
      (ofKind .constraint (statements constraintsAroundObjective)).map
        (Statement.readConstraint true) = m.constraints.map .ok ∧
      (ofKind .objective (statements constraintsAroundObjective)).getLast?.map
        Statement.readObjective = some (.ok m.objective) := by
  obtain ⟨hiff, hmodel⟩ := read_gathers ⟨.refused, true⟩ constraintsAroundObjective
  obtain ⟨m, hm⟩ := hiff.2 ⟨by decide +kernel, by decide +kernel, fun _ => by decide +kernel⟩
  exact ⟨m, hm, hmodel m hm⟩

end Document

end LinearProgram
