import Mathlib.Data.List.Induction
import LinearProgram.Proofs.StandardForm.Calls
import LinearProgram.Proofs.StandardForm.Session

/-!
# How feeding a model ends

A model can be fed to an assembly that has been used before. This module says in all cases which
calls are made, what comes of them, and what assembly is left (`Assembly.Fed`): a name that is
taken stops the feeding at once, and an undeclared variable is found out only at the end.

**Taken names** (`FirstTaken`). Variables and constraints are refused in the same way, so what is
said of the first of them that is refused is said once.

**Uses of variables** (`Assembly.uses`). The sums are laid out in one order, so the first use of an
undeclared variable in that order is the one that is reported (`Assembly.fault?_program`).

Main result: `Assembly.feed_outcome`, for the assemblies of all sessions.
-/

namespace LinearProgram

variable {α : Type}

/-! ## Taken names -/

/-- The first item of a list whose name is taken, by one of the names given or by an item before
it. -/
structure FirstTaken {ι : Type} (name : ι → Text) (names : List Text) (items before : List ι)
    (item : ι) : Prop where
  split : ∃ after, items = before ++ item :: after
  fresh : (names ++ before.map name).Nodup
  taken : name item ∈ names ++ before.map name

/-- All items have new names, or there is a first that has not. -/
theorem nodup_or_firstTaken {ι : Type} (name : ι → Text) {names : List Text} (h : names.Nodup)
    (items : List ι) : (names ++ items.map name).Nodup ∨
      ∃ before item, FirstTaken name names items before item := by
  -- From the end of the list, so that the induction speaks of all items before the last.
  induction items using List.reverseRecOn with
  | nil => exact Or.inl (by simpa using h)
  | append_singleton items item ih =>
    rcases ih with hfresh | ⟨before, first, ⟨after, rfl⟩, hfresh, htaken⟩
    · by_cases hitem : name item ∈ names ++ items.map name
      · exact Or.inr ⟨items, item, ⟨[], rfl⟩, hfresh, hitem⟩
      · left
        rw [List.map_append, ← List.append_assoc]
        exact nodup_append_singleton hitem hfresh
    · exact Or.inr ⟨before, first, ⟨after ++ [item], by simp⟩, hfresh, htaken⟩

/-! ## Faults -/

/-- The fault with which something fails. -/
def fault? {ε β : Type} : Except ε β → Option ε
  | .ok _ => none
  | .error fault => some fault

/-- Items fail as the first of them does that fails. -/
theorem fault?_mapM {ε β ι : Type} (f : ι → Except ε β) (items : List ι) :
    fault? (items.mapM f) = items.findSome? fun item => fault? (f item) := by
  induction items with
  | nil => rfl
  | cons item items ih =>
    rw [List.mapM_cons, List.findSome?_cons, ← ih]
    cases f item with
    | error fault => rfl
    | ok value => cases items.mapM f <;> rfl

namespace Assembly

variable {assembly : Assembly α}

/-! ## Uses of variables -/

/-- Who uses which variable, in the order in which sums are laid out. -/
def uses (constraints : List (Constraint α)) (objective : Objective α) : List (Owner × Text) :=
  (constraints.flatMap fun c => c.terms.map fun t => (.constraint c.name, t.name)) ++
    objective.terms.map fun t => (.objective objective.name, t.name)

theorem forall_mem_uses {constraints : List (Constraint α)} {objective : Objective α}
    {p : Text → Prop} : (∀ use ∈ uses constraints objective, p use.2) ↔
      (∀ c ∈ constraints, ∀ t ∈ c.terms, p t.name) ∧ ∀ t ∈ objective.terms, p t.name := by
  simp only [uses, List.forall_mem_append, List.forall_mem_flatMap, List.forall_mem_map]

section Faults

variable [Add α]

/-- Laying out a sum fails at its first undeclared variable. -/
theorem fault?_accumulate (h : assembly.Indexed) (owner : Owner) (row : List α)
    (terms : List (Term α)) : fault? (assembly.accumulate owner row terms) =
      ((terms.map fun t => (owner, t.name)).find? fun use => use.2 ∉ assembly.declared).map
        fun use => .undeclared use.1 use.2 := by
  induction terms generalizing row with
  | nil => rfl
  | cons t terms ih =>
    rw [accumulate, List.map_cons]
    cases hj : assembly.column? t.name with
    | none =>
      have hnew : t.name ∉ assembly.declared := h.column?_eq_none_iff.1 hj
      rw [List.find?_cons_of_pos (by simpa using hnew)]
      rfl
    | some j =>
      have hold : t.name ∈ assembly.declared :=
        List.mem_of_getElem? (h.getElem?_of_column? hj)
      rw [List.find?_cons_of_neg (by simpa using hold)]
      exact ih _

variable [Zero α] [One α] [Neg α]

/-- **Undeclared variables.** Making a program fails at the first use of one. -/
theorem fault?_program (h : assembly.Indexed) {objective : Objective α}
    (hobjective : assembly.objective = some objective) : fault? assembly.program =
      ((uses assembly.constraints objective).find? fun use => use.2 ∉ assembly.declared).map
        fun use => .undeclared use.1 use.2 := by
  have hrows : fault? (assembly.constraints.mapM fun c =>
      assembly.entries (.constraint c.name) c.terms) =
        ((assembly.constraints.flatMap fun c =>
          c.terms.map fun t => (Owner.constraint c.name, t.name)).find?
            fun use => use.2 ∉ assembly.declared).map fun use => .undeclared use.1 use.2 := by
    rw [fault?_mapM, List.find?_flatMap, List.map_findSome?]
    congr 1
    funext c
    exact fault?_accumulate h _ _ _
  have hcosts : fault? (assembly.entries (.objective objective.name) objective.terms) = _ :=
    fault?_accumulate h _ _ _
  rw [uses, List.find?_append, Option.map_or, ← hrows, ← hcosts]
  simp only [program, hobjective]
  cases assembly.constraints.mapM fun c => assembly.entries (.constraint c.name) c.terms with
  | error fault => rfl
  | ok rows => cases assembly.entries (.objective objective.name) objective.terms <;> rfl

end Faults

/-! ## Assemblies with distinct names -/

section Distinct

/-- The variables have distinct names, and so have the constraints. -/
structure Distinct (assembly : Assembly α) : Prop where
  indexed : assembly.Indexed
  constraints : (assembly.constraints.map Constraint.name).Nodup

theorem Indexed.declaring_of_nodup (h : assembly.Indexed) {names : List Text}
    (hnames : (assembly.declared ++ names).Nodup) : (assembly.declaring names).Indexed where
  nodup := hnames
  index_eq := by simp [Assembly.declaring, h.index_eq, List.zipIdx_append]

variable [Zero α] [One α] [Neg α] [Add α]

/-- **One call** keeps names distinct, whether it fails or not. -/
theorem Distinct.respond (h : assembly.Distinct) (call : Call α) :
    (assembler.respond assembly call).2.Distinct := by
  cases call with
  | declare t =>
    rw [respond_declare, h.indexed.map_fst_index]
    split
    · exact h
    · rename_i hnew
      exact ⟨h.indexed.declaring hnew, h.constraints⟩
  | require c =>
    rw [respond_require]
    split
    · exact h
    · rename_i hnew
      refine ⟨⟨h.indexed.nodup, h.indexed.index_eq⟩, ?_⟩
      rw [List.map_append]
      exact nodup_append_singleton hnew h.constraints
  | target o =>
    rw [respond_target]
    exact ⟨⟨h.indexed.nodup, h.indexed.index_eq⟩, h.constraints⟩
  | finish =>
    rw [respond_finish]
    exact h

theorem Distinct.afterCalls (h : assembly.Distinct) (calls : List (Call α)) :
    (assembler.afterCalls assembly calls).Distinct := by
  induction calls generalizing assembly with
  | nil => exact h
  | cons call calls ih =>
    rw [Assembler.afterCalls_cons]
    exact ih (h.respond call)

theorem distinct_afterCalls (calls : List (Call α)) :
    (assembler.afterCalls {} calls : Assembly α).Distinct :=
  Distinct.afterCalls ⟨indexed_empty, List.nodup_nil⟩ calls

end Distinct

/-! ## How feeding ends -/

/-- The assembly with all that a model gives. -/
def extended (assembly : Assembly α) (m : Model α) : Assembly α :=
  { (assembly.declaring m.variableNames).requiring m.constraints with
    objective := some m.objective }

/-- All variables and constraints of a model have new names. -/
structure Accepts (assembly : Assembly α) (m : Model α) : Prop where
  unknowns : (assembly.declared ++ m.variableNames).Nodup
  constraints : (assembly.constraints.map Constraint.name ++
    m.constraints.map Constraint.name).Nodup

variable {m : Model α}

theorem Accepts.indexed_extended (haccepts : assembly.Accepts m) (h : assembly.Indexed) :
    (assembly.extended m).Indexed :=
  ⟨haccepts.unknowns, (h.declaring_of_nodup haccepts.unknowns).index_eq⟩

variable [Zero α] [One α] [Neg α] [Add α]

/-- How feeding a model to an assembly ends: the calls that are made, and the result with the
assembly that is left. -/
inductive Fed (assembly : Assembly α) (m : Model α) :
    List (Call α) → EStateM.Result AssemblyFault (Assembly α) (Program α) → Prop
  | repeatedVariable {before : List (Term α)} {t : Term α} :
      FirstTaken Term.name assembly.declared m.declarations before t →
      Fed assembly m ((before ++ [t]).map .declare)
        (.error (.repeatedVariable t.name) (assembly.declaring (before.map Term.name)))
  | repeatedConstraint {before : List (Constraint α)} {c : Constraint α} :
      (assembly.declared ++ m.variableNames).Nodup →
      FirstTaken Constraint.name (assembly.constraints.map Constraint.name) m.constraints before c →
      Fed assembly m (m.declarations.map .declare ++ (before ++ [c]).map .require)
        (.error (.repeatedConstraint c.name)
          ((assembly.declaring m.variableNames).requiring before))
  | undeclared {before after : List (Owner × Text)} {owner : Owner} {name : Text} :
      assembly.Accepts m →
      uses (assembly.constraints ++ m.constraints) m.objective = before ++ (owner, name) :: after →
      (∀ use ∈ before, use.2 ∈ assembly.declared ++ m.variableNames) →
      name ∉ assembly.declared ++ m.variableNames →
      Fed assembly m m.calls (.error (.undeclared owner name) (assembly.extended m))
  | built : assembly.Accepts m →
      (∀ use ∈ uses (assembly.constraints ++ m.constraints) m.objective,
        use.2 ∈ assembly.declared ++ m.variableNames) →
      Fed assembly m m.calls
        (.ok ((assembly.extended m).layout m.objective) (assembly.extended m))

/-! ### Calls that succeed -/

theorem performAll_declare (h : assembly.Indexed) {terms : List (Term α)}
    (hfresh : (assembly.declared ++ terms.map Term.name).Nodup) :
    assembler.performAll (terms.map .declare) assembly =
      .ok [] (assembly.declaring (terms.map Term.name)) := by
  rw [Assembler.performAll_map assembler .declare declare fun _ => rfl]
  exact bind_eq_of_ok ((declareAll_eq_ok_iff h).2 ⟨hfresh, rfl⟩)

theorem performAll_require {constraints : List (Constraint α)}
    (hfresh : (assembly.constraints.map Constraint.name ++
      constraints.map Constraint.name).Nodup) :
    assembler.performAll (constraints.map .require) assembly =
      .ok [] (assembly.requiring constraints) := by
  rw [Assembler.performAll_map assembler .require require fun _ => rfl]
  exact bind_eq_of_ok ((requireAll_eq_ok_iff (List.nodup_append.1 hfresh).1).2 ⟨hfresh, rfl⟩)

/-- Everything before the last call. -/
theorem Accepts.performAll (haccepts : assembly.Accepts m) (h : assembly.Indexed) :
    assembler.performAll (m.declarations.map .declare ++
      (m.constraints.map .require ++ [.target m.objective])) assembly =
        .ok [] (assembly.extended m) := by
  have hdeclare := performAll_declare h haccepts.unknowns
  have hrequire : assembler.performAll (m.constraints.map .require)
      (assembly.declaring m.variableNames) = _ := performAll_require haccepts.constraints
  have htarget : assembler.performAll [.target m.objective]
      ((assembly.declaring m.variableNames).requiring m.constraints) =
        .ok [] (assembly.extended m) := rfl
  exact Assembler.performAll_append_of_ok hdeclare
    (Assembler.performAll_append_of_ok hrequire htarget)

theorem performAll_finish {p : Program α} (h : assembly.program = .ok p) :
    assembler.performAll [.finish] assembly = .ok [p] assembly := by
  have hfinish : assembler.perform .finish assembly = .ok (some p) assembly :=
    bind_eq_of_ok (finish_eq_ok_iff.2 ⟨h, rfl⟩)
  exact bind_eq_of_ok hfinish

/-! ### Calls that fail -/

theorem perform_declare_of_mem (h : assembly.Indexed) {t : Term α}
    (ht : t.name ∈ assembly.declared) :
    assembler.perform (.declare t) assembly = .error (.repeatedVariable t.name) assembly := by
  have hdeclare : declare t assembly = .error (.repeatedVariable t.name) assembly := by
    rw [← h.map_fst_index] at ht
    rw [declare, if_pos (column?_isSome_iff.2 ht)]
  exact bind_eq_of_error hdeclare

theorem perform_require_of_mem {c : Constraint α}
    (hc : c.name ∈ assembly.constraints.map Constraint.name) :
    assembler.perform (.require c) assembly = .error (.repeatedConstraint c.name) assembly := by
  have hrequire : require c assembly = .error (.repeatedConstraint c.name) assembly := by
    rw [require, if_pos (by simpa using hc)]
  exact bind_eq_of_error hrequire

theorem perform_finish_of_fault {fault : AssemblyFault} (h : fault? assembly.program = some fault) :
    assembler.perform .finish assembly = .error fault assembly := by
  have hfinish : finish assembly = .error fault assembly := by
    rw [finish]
    cases hprogram : assembly.program with
    | ok p => simp [hprogram, fault?] at h
    | error other =>
      rw [hprogram, fault?, Option.some.injEq] at h
      rw [h]
  exact bind_eq_of_error hfinish

/-! ### All endings -/

theorem feed_of_repeatedVariable (h : assembly.Distinct) {before : List (Term α)} {t : Term α}
    (ht : FirstTaken Term.name assembly.declared m.declarations before t) :
    assembler.feed m assembly =
        .error (.repeatedVariable t.name) (assembly.declaring (before.map Term.name)) ∧
      assembler.made assembly m.calls = (before ++ [t]).map .declare := by
  obtain ⟨⟨after, hsplit⟩, hfresh, htaken⟩ := ht
  have hcalls : m.calls = before.map .declare ++ .declare t ::
      (after.map .declare ++ (m.constraints.map .require ++ [.target m.objective, .finish])) := by
    simp [Model.calls, hsplit]
  have hindexed := h.indexed.declaring_of_nodup hfresh
  rw [List.map_append]
  exact Assembler.feed_stops hcalls (performAll_declare h.indexed hfresh)
    (perform_declare_of_mem hindexed htaken)

theorem feed_of_repeatedConstraint (h : assembly.Distinct)
    (hunknowns : (assembly.declared ++ m.variableNames).Nodup) {before : List (Constraint α)}
    {c : Constraint α} (hc : FirstTaken Constraint.name
      (assembly.constraints.map Constraint.name) m.constraints before c) :
    assembler.feed m assembly = .error (.repeatedConstraint c.name)
        ((assembly.declaring m.variableNames).requiring before) ∧
      assembler.made assembly m.calls =
        m.declarations.map .declare ++ (before ++ [c]).map .require := by
  obtain ⟨⟨after, hsplit⟩, hfresh, htaken⟩ := hc
  have hcalls : m.calls = (m.declarations.map .declare ++ before.map .require) ++ .require c ::
      (after.map .require ++ [.target m.objective, .finish]) := by
    simp [Model.calls, hsplit]
  have hrequire : assembler.performAll (before.map .require)
      (assembly.declaring m.variableNames) = _ := performAll_require hfresh
  have hbefore := Assembler.performAll_append_of_ok
    (performAll_declare h.indexed hunknowns) hrequire
  rw [List.map_append, ← List.append_assoc]
  refine Assembler.feed_stops hcalls hbefore (perform_require_of_mem ?_)
  rwa [requiring, List.map_append]

theorem Accepts.feed_of_undeclared (haccepts : assembly.Accepts m) (h : assembly.Indexed)
    {before after : List (Owner × Text)} {owner : Owner} {name : Text}
    (hsplit : uses (assembly.constraints ++ m.constraints) m.objective =
      before ++ (owner, name) :: after)
    (hbefore : ∀ use ∈ before, use.2 ∈ assembly.declared ++ m.variableNames)
    (hname : name ∉ assembly.declared ++ m.variableNames) :
    assembler.feed m assembly = .error (.undeclared owner name) (assembly.extended m) ∧
      assembler.made assembly m.calls = m.calls := by
  have hfind : (uses (assembly.constraints ++ m.constraints) m.objective).find?
      (fun use => use.2 ∉ assembly.declared ++ m.variableNames) = some (owner, name) :=
    List.find?_eq_some_iff_append.2 ⟨by simpa using hname, before, after, hsplit,
      fun use huse => by simpa using hbefore use huse⟩
  have hfault : fault? (assembly.extended m).program = some (.undeclared owner name) := by
    rw [fault?_program (haccepts.indexed_extended h) rfl]
    exact congrArg (Option.map _) hfind
  have hcalls : m.calls = (m.declarations.map .declare ++
      (m.constraints.map .require ++ [.target m.objective])) ++ [.finish] := by
    simp [Model.calls]
  have hstops := Assembler.feed_stops hcalls (haccepts.performAll h)
    (perform_finish_of_fault hfault)
  rwa [← hcalls] at hstops

theorem Accepts.feed_of_declared (haccepts : assembly.Accepts m) (h : assembly.Indexed)
    (huses : ∀ use ∈ uses (assembly.constraints ++ m.constraints) m.objective,
      use.2 ∈ assembly.declared ++ m.variableNames) :
    assembler.feed m assembly =
        .ok ((assembly.extended m).layout m.objective) (assembly.extended m) ∧
      assembler.made assembly m.calls = m.calls := by
  obtain ⟨hrows, hcosts⟩ := forall_mem_uses.1 huses
  have hprogram := (program_eq_ok_iff (haccepts.indexed_extended h)).2
    ⟨m.objective, rfl, hrows, hcosts, rfl⟩
  have hall := Assembler.performAll_append_of_ok (haccepts.performAll h)
    (performAll_finish hprogram)
  refine Assembler.feed_finishes ?_
  simpa [Model.calls] using hall

/-- **Every ending is as described.** -/
theorem Fed.sound {visited : List (Call α)}
    {result : EStateM.Result AssemblyFault (Assembly α) (Program α)} (h : assembly.Distinct)
    (hfed : Fed assembly m visited result) :
    assembler.feed m assembly = result ∧ assembler.made assembly m.calls = visited := by
  cases hfed with
  | repeatedVariable ht => exact feed_of_repeatedVariable h ht
  | repeatedConstraint hunknowns hc => exact feed_of_repeatedConstraint h hunknowns hc
  | undeclared haccepts hsplit hbefore hname =>
    exact haccepts.feed_of_undeclared h.indexed hsplit hbefore hname
  | built haccepts huses => exact haccepts.feed_of_declared h.indexed huses

/-- **There is an ending.** -/
theorem exists_fed (h : assembly.Distinct) (m : Model α) :
    ∃ visited result, Fed assembly m visited result := by
  rcases nodup_or_firstTaken Term.name h.indexed.nodup m.declarations with
    hunknowns | ⟨before, t, ht⟩
  · rcases nodup_or_firstTaken Constraint.name h.constraints m.constraints with
      hconstraints | ⟨before, c, hc⟩
    · cases hfind : (uses (assembly.constraints ++ m.constraints) m.objective).find?
          fun use => use.2 ∉ assembly.declared ++ m.variableNames with
      | none =>
        rw [List.find?_eq_none] at hfind
        exact ⟨_, _, .built ⟨hunknowns, hconstraints⟩ fun use huse =>
          not_not.1 fun hnew => hfind use huse (by simpa using hnew)⟩
      | some use =>
        obtain ⟨hname, before, after, hsplit, hbefore⟩ := List.find?_eq_some_iff_append.1 hfind
        exact ⟨_, _, .undeclared ⟨hunknowns, hconstraints⟩ hsplit
          (fun use huse => by simpa using hbefore use huse) (by simpa using hname)⟩
    · exact ⟨_, _, .repeatedConstraint hunknowns hc⟩
  · exact ⟨_, _, .repeatedVariable ht⟩

/-- **How feeding ends, after any session.** -/
theorem feed_outcome (calls : List (Call α)) (m : Model α) :
    (∀ visited result, Fed (assembler.afterCalls {} calls) m visited result ↔
      assembler.feed m (assembler.afterCalls {} calls) = result ∧
        assembler.observed.feed m ([], assembler.afterCalls {} calls) = noted visited result) ∧
    (∃ visited, assembler.observed.feed m ([], assembler.afterCalls {} calls) =
      noted visited (assembler.feed m (assembler.afterCalls {} calls))) ∧
    ∀ last, assembler.feed m (assembler.afterCalls {} calls) ≠ .error .missingObjective last := by
  have hdistinct := distinct_afterCalls calls
  have hobserved := Assembler.observed_feed assembler m [] (assembler.afterCalls {} calls)
  rw [List.nil_append] at hobserved
  -- There is an ending, and every ending is what happens, so nothing else can happen.
  obtain ⟨visited, result, hfed⟩ := exists_fed hdistinct m
  obtain ⟨hresult, hvisited⟩ := hfed.sound hdistinct
  refine ⟨fun others other => ⟨fun h => ?_, ?_⟩, ⟨_, hobserved⟩, fun last hmissing => ?_⟩
  · obtain ⟨rfl, rfl⟩ := h.sound hdistinct
    exact ⟨rfl, hobserved⟩
  · rintro ⟨rfl, hnoted⟩
    obtain rfl := noted_left_inj (hobserved.symm.trans hnoted)
    rwa [hvisited, hresult]
  · rw [hresult] at hmissing
    subst hmissing
    cases hfed

end Assembly

end LinearProgram
