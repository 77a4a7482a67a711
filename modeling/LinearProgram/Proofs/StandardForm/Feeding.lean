import LinearProgram.Proofs.StandardForm.Calls
import LinearProgram.Proofs.StandardForm.Layout

/-!
# Feeding a model to an assembly

A model is handed over part by part, and every part is checked against what has been accepted so
far. Taken together, the checks ask one thing of the model as a whole (`Model.WellNamed`): no name
is declared twice, no constraint is named twice, and every sum uses declared variables only.

Main result: `Model.program_eq_ok_iff`. A model has a program exactly when it is well named, and
the program is the layout of all its parts.
-/

namespace LinearProgram

/-! ## One call after the other -/

section Calls

variable {σ ε : Type}

/-- A new name behind distinct names. -/
theorem nodup_append_singleton {names : List Text} {name : Text} (hname : name ∉ names)
    (h : names.Nodup) : (names ++ [name]).Nodup := by
  rw [← List.concat_eq_append]
  exact h.concat hname

/-- Calls that each accept an item under a new name are all accepted when the names of the items
are new and distinct. `enter` says what has changed then. -/
theorem forM_eq_ok_iff_nodup {ι : Type} {call : ι → EStateM ε σ Unit} (name : ι → Text)
    (names : σ → List Text) (enter : σ → List ι → σ)
    (hcall : ∀ i s final, call i s = .ok () final ↔ name i ∉ names s ∧ enter s [i] = final)
    (hnames : ∀ s i, names (enter s [i]) = names s ++ [name i])
    (hnil : ∀ s, enter s [] = s)
    (hcons : ∀ s i items, enter (enter s [i]) items = enter s (i :: items))
    {items : List ι} {final : σ} (s : σ) (h : (names s).Nodup) :
    items.forM call s = .ok () final ↔
      (names s ++ items.map name).Nodup ∧ enter s items = final := by
  induction items generalizing s with
  | nil =>
    show EStateM.Result.ok () s = _ ↔ _
    simp [h, hnil]
  | cons i items ih =>
    show (call i >>= fun _ => items.forM call) s = _ ↔ _
    rw [bind_eq_ok_iff]
    simp only [hcall]
    rw [List.map_cons, List.append_cons]
    constructor
    · rintro ⟨-, -, ⟨hi, rfl⟩, hrest⟩
      have hmiddle : (names (enter s [i])).Nodup := by
        rw [hnames]
        exact nodup_append_singleton hi h
      rwa [ih _ hmiddle, hnames, hcons] at hrest
    · rintro ⟨hnodup, rfl⟩
      have hmiddle : (names (enter s [i])).Nodup := by
        rw [hnames]
        exact (List.nodup_append.1 hnodup).1
      have hi : name i ∉ names s := fun hmem =>
        (List.nodup_append.1 (hnames s i ▸ hmiddle)).2.2 _ hmem _ (by simp) rfl
      exact ⟨(), enter s [i], ⟨hi, rfl⟩, (ih _ hmiddle).2 ⟨by rwa [hnames], hcons s i items⟩⟩

end Calls

namespace Assembly

variable {α : Type} {assembly final : Assembly α}

/-- What declaring a list of names makes of an assembly. -/
def declaring (assembly : Assembly α) (names : List Text) : Assembly α :=
  { assembly with
    declared := assembly.declared ++ names
    index := assembly.index ++ names.zipIdx assembly.declared.length }

theorem declaring_nil (assembly : Assembly α) : assembly.declaring [] = assembly := by
  simp [declaring]

theorem declaring_cons (assembly : Assembly α) (name : Text) (names : List Text) :
    (assembly.declaring [name]).declaring names = assembly.declaring (name :: names) := by
  simp [declaring]

theorem column?_isSome_iff {name : Text} :
    (assembly.column? name).isSome = true ↔ name ∈ assembly.index.map Prod.fst := by
  rw [column?, ← Option.ne_none_iff_isSome, ne_eq, List.lookup_eq_none_iff]
  simp

theorem declare_eq_ok_iff {t : Term α} : declare t assembly = .ok () final ↔
    t.name ∉ assembly.index.map Prod.fst ∧ assembly.declaring [t.name] = final := by
  rw [declare, ← column?_isSome_iff]
  split <;> simp_all [declaring]

theorem require_eq_ok_iff {c : Constraint α} : require c assembly = .ok () final ↔
    c.name ∉ assembly.constraints.map (·.name) ∧
      { assembly with constraints := assembly.constraints ++ [c] } = final := by
  rw [require]
  split <;> simp_all

theorem finish_eq_ok_iff [Zero α] [One α] [Neg α] [Add α] {p : Program α} :
    finish assembly = .ok p final ↔ assembly.program = .ok p ∧ assembly = final := by
  rw [finish]
  cases assembly.program <;> simp

theorem indexed_empty : ({} : Assembly α).Indexed := ⟨List.nodup_nil, rfl⟩

theorem Indexed.map_fst_index (h : assembly.Indexed) :
    assembly.index.map Prod.fst = assembly.declared := by
  rw [h.index_eq, List.zipIdx_map_fst]

/-- What requiring a list of constraints makes of an assembly. -/
def requiring (assembly : Assembly α) (constraints : List (Constraint α)) : Assembly α :=
  { assembly with constraints := assembly.constraints ++ constraints }

theorem declareAll_eq_ok_iff (hindexed : assembly.Indexed) {terms : List (Term α)} :
    terms.forM declare assembly = .ok () final ↔
      (assembly.declared ++ terms.map Term.name).Nodup ∧
        assembly.declaring (terms.map Term.name) = final := by
  have h : terms.forM declare assembly = .ok () final ↔ _ :=
    forM_eq_ok_iff_nodup Term.name (fun a : Assembly α => a.index.map Prod.fst)
      (fun (a : Assembly α) terms => a.declaring (terms.map Term.name))
      (fun _ _ _ => declare_eq_ok_iff) (by simp [declaring]) declaring_nil
      (fun a t terms => declaring_cons a t.name (terms.map Term.name)) assembly
      (hindexed.map_fst_index ▸ hindexed.nodup)
  rwa [hindexed.map_fst_index] at h

theorem requireAll_eq_ok_iff (hnodup : (assembly.constraints.map Constraint.name).Nodup)
    {constraints : List (Constraint α)} : constraints.forM require assembly = .ok () final ↔
      (assembly.constraints.map Constraint.name ++ constraints.map Constraint.name).Nodup ∧
        assembly.requiring constraints = final :=
  forM_eq_ok_iff_nodup Constraint.name (fun a : Assembly α => a.constraints.map Constraint.name)
    requiring (fun _ _ _ => require_eq_ok_iff) (by simp [requiring]) (by simp [requiring])
    (by simp [requiring]) assembly hnodup

end Assembly

/-! ## Whole models -/

namespace Model

variable {α : Type} {m : Model α}

/-- What the checks of an assembly ask of a model. -/
structure WellNamed (m : Model α) : Prop where
  unknowns : m.variableNames.Nodup
  constraints : (m.constraints.map (·.name)).Nodup
  rows : ∀ c ∈ m.constraints, ∀ t ∈ c.terms, t.name ∈ m.variableNames
  costs : ∀ t ∈ m.objective.terms, t.name ∈ m.variableNames

/-- The assembly that has accepted all parts of a model. -/
def assembled (m : Model α) : Assembly α where
  declared := m.variableNames
  index := m.variableNames.zipIdx
  constraints := m.constraints
  objective := some m.objective

variable [Zero α] [One α] [Neg α] [Add α] {p : Program α} {final : Assembly α}

/-- The program of all parts of a model. -/
def standardForm (m : Model α) : Program α := m.assembled.layout m.objective

/-- A model is fed to the end when its names are distinct and its parts make a program. -/
theorem feed_eq_ok_iff : Assembly.assembler.feed m {} = .ok p final ↔ m.variableNames.Nodup ∧
    (m.constraints.map (·.name)).Nodup ∧ m.assembled.program = .ok p ∧ m.assembled = final := by
  simp only [Assembler.feed, bind_eq_ok_iff, Assembly.assembler]
  have hnone : (((({} : Assembly α).declaring m.variableNames).constraints).map
      Constraint.name).Nodup := List.nodup_nil
  constructor
  · rintro ⟨⟨⟩, declared, hdeclared, ⟨⟩, required, hrequired, ⟨⟩, targeted, htarget, hfinish⟩
    obtain ⟨hunknowns, rfl⟩ := (Assembly.declareAll_eq_ok_iff Assembly.indexed_empty).1 hdeclared
    obtain ⟨hconstraints, rfl⟩ := (Assembly.requireAll_eq_ok_iff hnone).1 hrequired
    cases htarget
    exact ⟨hunknowns, hconstraints, Assembly.finish_eq_ok_iff.1 hfinish⟩
  · rintro ⟨hunknowns, hconstraints, hfinish⟩
    exact ⟨(), _, (Assembly.declareAll_eq_ok_iff Assembly.indexed_empty).2 ⟨hunknowns, rfl⟩, (), _,
      (Assembly.requireAll_eq_ok_iff hnone).2 ⟨hconstraints, rfl⟩, (), _, rfl,
      Assembly.finish_eq_ok_iff.2 hfinish⟩

/-- **The program of a model.** -/
theorem program_eq_ok_iff :
    m.program = .ok p ↔ m.WellNamed ∧ m.standardForm = p := by
  have hfeed : m.program = .ok p ↔ ∃ final, Assembly.assembler.feed m {} = .ok p final := by
    rw [program]
    cases Assembly.assembler.feed m {} <;> simp
  rw [hfeed]
  constructor
  · rintro ⟨final, h⟩
    obtain ⟨hunknowns, hconstraints, hp, -⟩ := feed_eq_ok_iff.1 h
    obtain ⟨objective, hobjective, hrows, hcosts, hlayout⟩ :=
      (Assembly.program_eq_ok_iff ⟨hunknowns, rfl⟩).1 hp
    obtain rfl : m.objective = objective := Option.some.inj hobjective
    exact ⟨⟨hunknowns, hconstraints, hrows, hcosts⟩, hlayout⟩
  · rintro ⟨h, hlayout⟩
    have hindexed : m.assembled.Indexed := ⟨h.unknowns, rfl⟩
    have hp := (Assembly.program_eq_ok_iff hindexed).2
      ⟨m.objective, rfl, h.rows, h.costs, hlayout⟩
    exact ⟨m.assembled, feed_eq_ok_iff.2 ⟨h.unknowns, h.constraints, hp, rfl⟩⟩

end Model

theorem Document.program_eq_ok_iff {policy : Policy} {text : Text} {p : Program Number} :
    program policy text = .ok p ↔ ∃ m, read policy text = .ok m ∧ m.program = .ok p := by
  rw [program, Assembler.feedDocument]
  cases read policy text with
  | error fault => simp
  | ok m =>
    simp only [Except.ok.injEq, exists_eq_left', Model.program]
    cases Assembly.assembler.feed m {} <;> simp

end LinearProgram
