import Mathlib.Algebra.Ring.Int.Defs
import LinearProgram.Proofs.StandardForm.Feeding

/-!
# Sessions with an assembly

A session is a sequence of calls in any order, which goes on after a call that fails. What an
assembly is after a session can be said without going through the states in between (`Recorded`):
the declared names without repetitions, for each name of a constraint the first constraint that was
given under it, and the last objective.

**One call** (`Recorded.respond`, `Responds`). A variable or a constraint is refused exactly when
an earlier call of its kind gave the same name, and a call that fails changes nothing, nor does
finishing.

**Kinds of calls do not interfere** (`answers_filter`). A call is answered, and changes the state,
by what calls of its own kind have left there (`Assembly.part`). So sessions with the same calls of
each kind lead to the same assembly and give the same answers (`Assembly.session_outcome`).
-/

namespace LinearProgram

variable {α : Type}

/-! ## Calls -/

/-- The kinds of calls. -/
inductive CallKind where
  | declare
  | require
  | target
  | finish
  deriving DecidableEq

namespace Call

def kind : Call α → CallKind
  | .declare _ => .declare
  | .require _ => .require
  | .target _ => .target
  | .finish => .finish

/-- The name that the call declares. -/
def declared? : Call α → Option Text
  | .declare t => some t.name
  | .require _ | .target _ | .finish => none

/-- The constraint that the call gives. -/
def required? : Call α → Option (Constraint α)
  | .require c => some c
  | .declare _ | .target _ | .finish => none

/-- The objective that the call gives. -/
def targeted? : Call α → Option (Objective α)
  | .target o => some o
  | .declare _ | .require _ | .finish => none

theorem declared?_of_kind_ne {call : Call α} (h : call.kind ≠ .declare) :
    call.declared? = none := by
  cases call with
  | declare t => exact absurd rfl h
  | require c | target o | finish => rfl

theorem required?_of_kind_ne {call : Call α} (h : call.kind ≠ .require) :
    call.required? = none := by
  cases call with
  | require c => exact absurd rfl h
  | declare t | target o | finish => rfl

theorem targeted?_of_kind_ne {call : Call α} (h : call.kind ≠ .target) :
    call.targeted? = none := by
  cases call with
  | target o => exact absurd rfl h
  | declare t | require c | finish => rfl

end Call

/-- Sessions with the same calls of each kind in the same order, whatever the order between kinds,
and however often they finish. -/
def SameCalls (calls others : List (Call α)) : Prop :=
  ∀ kind, kind ≠ .finish → calls.filter (·.kind = kind) = others.filter (·.kind = kind)

/-- What is taken from the calls of one kind is the same in such sessions. -/
theorem SameCalls.filterMap_eq {β : Type} {calls others : List (Call α)}
    (h : SameCalls calls others) (kind : CallKind) (hkind : kind ≠ .finish) {f : Call α → Option β}
    (hf : ∀ call, call.kind ≠ kind → f call = none) : calls.filterMap f = others.filterMap f := by
  have hfilter (calls : List (Call α)) :
      calls.filterMap f = (calls.filter (·.kind = kind)).filterMap f := by
    rw [List.filterMap_filter]
    refine List.filterMap_congr fun call _ => ?_
    by_cases hcall : call.kind = kind <;> simp [hcall, hf]
  rw [hfilter calls, hfilter others, h kind hkind]

/-- For each name the first constraint that has it, in the order in which the names come up. -/
def firstOfEach (constraints : List (Constraint α)) : List (Constraint α) :=
  (constraints.map (·.name)).eraseDups.filterMap fun name => constraints.find? (·.name == name)

/-! ## Repetitions -/

section Repetitions

variable {names : List Text} {name : Text} {constraints : List (Constraint α)} {c : Constraint α}

theorem eraseDups_concat_of_mem (h : name ∈ names) :
    (names ++ [name]).eraseDups = names.eraseDups := by
  simp [List.eraseDups_append, List.removeAll, h]

theorem eraseDups_concat_of_not_mem (h : name ∉ names) :
    (names ++ [name]).eraseDups = names.eraseDups ++ [name] := by
  simp [List.eraseDups_append, List.removeAll, h, List.eraseDups_cons]

/-- A constraint behind the others is not found under a name that they have. -/
theorem filterMap_find?_concat (h : ∀ name ∈ names, name ∈ constraints.map (·.name)) :
    (names.filterMap fun name => (constraints ++ [c]).find? (·.name == name)) =
      names.filterMap fun name => constraints.find? (·.name == name) := by
  refine List.filterMap_congr fun name hname => ?_
  obtain ⟨d, hd, rfl⟩ := List.mem_map.1 (h name hname)
  rw [List.find?_append]
  cases hfind : constraints.find? (·.name == d.name) with
  | none => exact absurd (beq_self_eq_true d.name) (List.find?_eq_none.1 hfind d hd)
  | some first => rfl

theorem firstOfEach_concat_of_mem (h : c.name ∈ constraints.map (·.name)) :
    firstOfEach (constraints ++ [c]) = firstOfEach constraints := by
  rw [firstOfEach, List.map_append, List.map_singleton, eraseDups_concat_of_mem h,
    filterMap_find?_concat fun name hname => List.mem_eraseDups.1 hname, firstOfEach]

theorem firstOfEach_concat_of_not_mem (h : c.name ∉ constraints.map (·.name)) :
    firstOfEach (constraints ++ [c]) = firstOfEach constraints ++ [c] := by
  have hfind : constraints.find? (·.name == c.name) = none :=
    List.find?_eq_none.2 fun d hd => by
      simpa using fun hname => h (List.mem_map.2 ⟨d, hd, hname⟩)
  rw [firstOfEach, List.map_append, List.map_singleton, eraseDups_concat_of_not_mem h,
    List.filterMap_append, filterMap_find?_concat fun name hname => List.mem_eraseDups.1 hname,
    firstOfEach]
  simp [List.find?_append, hfind]

theorem mem_names_firstOfEach :
    name ∈ (firstOfEach constraints).map (·.name) ↔ name ∈ constraints.map (·.name) := by
  constructor
  · intro h
    obtain ⟨d, hd, rfl⟩ := List.mem_map.1 h
    obtain ⟨other, -, hfind⟩ := List.mem_filterMap.1 hd
    exact List.mem_map.2 ⟨d, List.mem_of_find?_eq_some hfind, rfl⟩
  · intro h
    obtain ⟨d, hd, rfl⟩ := List.mem_map.1 h
    cases hfind : constraints.find? (·.name == d.name) with
    | none => exact absurd (beq_self_eq_true d.name) (List.find?_eq_none.1 hfind d hd)
    | some first =>
      have hname : first.name = d.name := by simpa using List.find?_some hfind
      exact List.mem_map.2 ⟨first, List.mem_filterMap.2
        ⟨d.name, List.mem_eraseDups.2 h, hfind⟩, hname⟩

end Repetitions

/-! ## One call -/

namespace Assembler

variable {σ ε ρ : Type} (assembler : Assembler σ ε ρ α)

/-- The answer to a call, which is its result or why it has failed, and the state after it. -/
def respond (state : σ) (call : Call α) : Except ε (Option ρ) × σ :=
  match assembler.perform call state with
  | .ok result next => (.ok result, next)
  | .error fault next => (.error fault, next)

/-- The calls of a session with their answers. -/
def answers : σ → List (Call α) → List (Call α × Except ε (Option ρ))
  | _, [] => []
  | state, call :: rest =>
    (call, (assembler.respond state call).1) :: answers (assembler.respond state call).2 rest

theorem afterCalls_cons (state : σ) (call : Call α) (rest : List (Call α)) :
    assembler.afterCalls state (call :: rest) =
      assembler.afterCalls (assembler.respond state call).2 rest := by
  rw [afterCalls, respond]
  cases assembler.perform call state <;> rfl

end Assembler

namespace Assembly

variable [Zero α] [One α] [Neg α] [Add α] {assembly : Assembly α} {calls others : List (Call α)}

theorem respond_declare (assembly : Assembly α) (t : Term α) :
    assembler.respond assembly (.declare t) =
      if t.name ∈ assembly.index.map Prod.fst then (.error (.repeatedVariable t.name), assembly)
      else (.ok none, assembly.declaring [t.name]) := by
  have hperform : assembler.perform (.declare t) assembly = EStateM.bind (declare t) _ assembly :=
    rfl
  rw [Assembler.respond, hperform, EStateM.bind, declare]
  by_cases h : t.name ∈ assembly.index.map Prod.fst
  · rw [if_pos h, if_pos (column?_isSome_iff.2 h)]
  · rw [if_neg h, if_neg (mt column?_isSome_iff.1 h)]
    rfl

theorem respond_require (assembly : Assembly α) (c : Constraint α) :
    assembler.respond assembly (.require c) =
      if c.name ∈ assembly.constraints.map (·.name) then
        (.error (.repeatedConstraint c.name), assembly)
      else (.ok none, { assembly with constraints := assembly.constraints ++ [c] }) := by
  have hany : assembly.constraints.any (·.name == c.name) = true ↔
      c.name ∈ assembly.constraints.map (·.name) := by simp
  have hperform : assembler.perform (.require c) assembly = EStateM.bind (require c) _ assembly :=
    rfl
  rw [Assembler.respond, hperform, EStateM.bind, require]
  by_cases h : c.name ∈ assembly.constraints.map (·.name)
  · rw [if_pos h, if_pos (hany.2 h)]
  · rw [if_neg h, if_neg (mt hany.1 h)]
    rfl

theorem respond_target (assembly : Assembly α) (o : Objective α) :
    assembler.respond assembly (.target o) =
      (.ok none, { assembly with objective := some o }) := rfl

/-- Finishing gives the program or fails, and keeps the assembly in both cases. -/
theorem respond_finish (assembly : Assembly α) :
    assembler.respond assembly .finish = (assembly.program.map some, assembly) := by
  have hperform : assembler.perform .finish assembly = EStateM.bind finish _ assembly := rfl
  rw [Assembler.respond, hperform, EStateM.bind, finish]
  cases assembly.program <;> rfl

/-- A call that fails changes nothing. -/
theorem respond_snd_of_error {call : Call α} {fault : AssemblyFault}
    (h : (assembler.respond assembly call).1 = .error fault) :
    (assembler.respond assembly call).2 = assembly := by
  cases call with
  | declare t =>
    rw [respond_declare] at h ⊢
    split at h
    · rw [if_pos ‹_›]
    · simp at h
  | require c =>
    rw [respond_require] at h ⊢
    split at h
    · rw [if_pos ‹_›]
    · simp at h
  | target o => simp [respond_target] at h
  | finish => rw [respond_finish]

end Assembly

/-! ## What a session has recorded -/

theorem filterMap_concat_of_some {β : Type} {f : Call α → Option β} {call : Call α} {value : β}
    (calls : List (Call α)) (h : f call = some value) :
    (calls ++ [call]).filterMap f = calls.filterMap f ++ [value] := by
  simp [h]

theorem filterMap_concat_of_none {β : Type} {f : Call α → Option β} {call : Call α}
    (calls : List (Call α)) (h : f call = none) :
    (calls ++ [call]).filterMap f = calls.filterMap f := by
  simp [h]

namespace Assembly

section Recorded

variable {assembly : Assembly α} {calls : List (Call α)}

/-- What an assembly is after a session. -/
structure Recorded (calls : List (Call α)) (assembly : Assembly α) : Prop where
  declared : assembly.declared = (calls.filterMap Call.declared?).eraseDups
  indexed : assembly.Indexed
  constraints : assembly.constraints = firstOfEach (calls.filterMap Call.required?)
  objective : assembly.objective = (calls.filterMap Call.targeted?).getLast?

theorem recorded_nil : Recorded [] ({} : Assembly α) where
  declared := rfl
  indexed := ⟨List.nodup_nil, rfl⟩
  constraints := rfl
  objective := rfl

theorem Recorded.mem_index_iff (h : Recorded calls assembly) {name : Text} :
    name ∈ assembly.index.map Prod.fst ↔ name ∈ calls.filterMap Call.declared? := by
  rw [h.indexed.index_eq, List.zipIdx_map_fst, h.declared, List.mem_eraseDups]

theorem Recorded.mem_constraints_iff (h : Recorded calls assembly) {name : Text} :
    name ∈ assembly.constraints.map (·.name) ↔
      name ∈ (calls.filterMap Call.required?).map (·.name) := by
  rw [h.constraints, mem_names_firstOfEach]

theorem Indexed.declaring (h : assembly.Indexed) {name : Text} (hname : name ∉ assembly.declared) :
    (assembly.declaring [name]).Indexed where
  nodup := nodup_append_singleton hname h.nodup
  index_eq := by simp [Assembly.declaring, h.index_eq, List.zipIdx_append]

/-- The index gives every declared name its position. -/
theorem Indexed.column?_eq_some_iff (h : assembly.Indexed) {name : Text} {j : Nat} :
    assembly.column? name = some j ↔ assembly.declared[j]? = some name := by
  refine ⟨h.getElem?_of_column?, fun hj => ?_⟩
  cases hcolumn : assembly.column? name with
  | none => exact absurd (List.mem_of_getElem? hj) (h.column?_eq_none_iff.1 hcolumn)
  | some i =>
    have hi := h.getElem?_of_column? hcolumn
    have hlt := (List.getElem?_eq_some_iff.1 hi).1
    rw [(List.getElem?_inj hlt h.nodup).1 (hi.trans hj.symm)]

/-- There is one assembly that a session can lead to. -/
theorem Recorded.unique {other : Assembly α} (h : Recorded calls assembly)
    (h' : Recorded calls other) : assembly = other := by
  have hdeclared : assembly.declared = other.declared := h.declared.trans h'.declared.symm
  have hindex : assembly.index = other.index := by
    rw [h.indexed.index_eq, h'.indexed.index_eq, hdeclared]
  have hconstraints := h.constraints.trans h'.constraints.symm
  have hobjective := h.objective.trans h'.objective.symm
  obtain ⟨declared, index, constraints, objective⟩ := assembly
  obtain ⟨declared', index', constraints', objective'⟩ := other
  rw [Assembly.mk.injEq]
  exact ⟨hdeclared, hindex, hconstraints, hobjective⟩

/-- Sessions with the same calls of each kind record the same. -/
theorem Recorded.of_sameCalls {others : List (Call α)} (h : Recorded others assembly)
    (hsame : SameCalls calls others) : Recorded calls assembly where
  declared := by
    rw [h.declared, hsame.filterMap_eq .declare (by decide) fun _ => Call.declared?_of_kind_ne]
  indexed := h.indexed
  constraints := by
    rw [h.constraints, hsame.filterMap_eq .require (by decide) fun _ => Call.required?_of_kind_ne]
  objective := by
    rw [h.objective, hsame.filterMap_eq .target (by decide) fun _ => Call.targeted?_of_kind_ne]

end Recorded

variable [Zero α] [One α] [Neg α] [Add α] {assembly : Assembly α} {calls others : List (Call α)}

/-- **One more call.** -/
theorem Recorded.respond (h : Recorded calls assembly) (call : Call α) :
    Recorded (calls ++ [call]) (assembler.respond assembly call).2 := by
  have ⟨hdeclared, hindexed, hconstraints, hobjective⟩ := h
  have hsame {β : Type} {f : Call α → Option β} (hf : f call = none) :
      calls.filterMap f = (calls ++ [call]).filterMap f := (filterMap_concat_of_none calls hf).symm
  cases call with
  | declare t =>
    rw [respond_declare]
    rw [hsame rfl] at hconstraints hobjective
    have hnames := filterMap_concat_of_some calls
      (show Call.declared? (.declare t) = some t.name from rfl)
    split
    · rename_i hmem
      have hold := h.mem_index_iff.1 hmem
      refine ⟨?_, hindexed, hconstraints, hobjective⟩
      rw [hnames, eraseDups_concat_of_mem hold, hdeclared]
    · rename_i hmem
      have hnew := mt h.mem_index_iff.2 hmem
      have hname : t.name ∉ assembly.declared := by rwa [hdeclared, List.mem_eraseDups]
      refine ⟨?_, hindexed.declaring hname, hconstraints, hobjective⟩
      rw [hnames, eraseDups_concat_of_not_mem hnew, ← hdeclared]
      rfl
  | require c =>
    rw [respond_require]
    rw [hsame rfl] at hdeclared hobjective
    have hgiven := filterMap_concat_of_some calls
      (show Call.required? (.require c) = some c from rfl)
    split
    · rename_i hmem
      have hold := h.mem_constraints_iff.1 hmem
      refine ⟨hdeclared, hindexed, ?_, hobjective⟩
      rw [hgiven, firstOfEach_concat_of_mem hold, hconstraints]
    · rename_i hmem
      have hnew := mt h.mem_constraints_iff.2 hmem
      refine ⟨hdeclared, ⟨hindexed.nodup, hindexed.index_eq⟩, ?_, hobjective⟩
      rw [hgiven, firstOfEach_concat_of_not_mem hnew, ← hconstraints]
  | target o =>
    rw [respond_target]
    rw [hsame rfl] at hdeclared hconstraints
    have hgiven := filterMap_concat_of_some calls
      (show Call.targeted? (.target o) = some o from rfl)
    refine ⟨hdeclared, ⟨hindexed.nodup, hindexed.index_eq⟩, hconstraints, ?_⟩
    rw [hgiven, List.getLast?_concat]
  | finish =>
    rw [respond_finish]
    rw [hsame rfl] at hdeclared hconstraints hobjective
    exact ⟨hdeclared, hindexed, hconstraints, hobjective⟩

/-- **A whole session.** -/
theorem Recorded.afterCalls (h : Recorded calls assembly) (rest : List (Call α)) :
    Recorded (calls ++ rest) (assembler.afterCalls assembly rest) := by
  induction rest generalizing calls assembly with
  | nil => rwa [List.append_nil]
  | cons call rest ih =>
    rw [Assembler.afterCalls_cons]
    have := ih (h.respond call)
    rwa [List.append_assoc, List.singleton_append] at this

theorem recorded_afterCalls (calls : List (Call α)) :
    Recorded calls (assembler.afterCalls {} calls) :=
  recorded_nil.afterCalls calls

/-! ## Calls of different kinds -/

/-- What the calls of a kind use of an assembly; finishing uses all of it. -/
def part (assembly : Assembly α) : CallKind → Assembly α
  | .declare => { declared := assembly.declared, index := assembly.index }
  | .require => { constraints := assembly.constraints }
  | .target => { objective := assembly.objective }
  | .finish => assembly

/-- A call is answered by its part of the assembly, and changes this part as it would by itself. -/
theorem respond_part (assembly : Assembly α) (call : Call α) :
    assembler.respond (assembly.part call.kind) call =
      ((assembler.respond assembly call).1,
        (assembler.respond assembly call).2.part call.kind) := by
  cases call with
  | declare t =>
    simp only [respond_declare, Call.kind, part]
    split <;> rfl
  | require c =>
    simp only [respond_require, Call.kind, part]
    split <;> rfl
  | target o => rfl
  | finish => rw [Call.kind, part, respond_finish, part]

/-- A call leaves the parts of the other kinds alone. -/
theorem part_respond_of_ne {kind : CallKind} (hkind : kind ≠ .finish) {call : Call α}
    (h : call.kind ≠ kind) :
    (assembler.respond assembly call).2.part kind = assembly.part kind := by
  cases call with
  | declare t =>
    rw [respond_declare]
    cases kind with
    | declare => exact absurd rfl h
    | finish => exact absurd rfl hkind
    | require | target => split <;> rfl
  | require c =>
    rw [respond_require]
    cases kind with
    | require => exact absurd rfl h
    | finish => exact absurd rfl hkind
    | declare | target => split <;> rfl
  | target o =>
    cases kind with
    | target => exact absurd rfl h
    | finish => exact absurd rfl hkind
    | declare | require => rfl
  | finish => rw [respond_finish]

/-- **The answers to the calls of one kind** are those that a session without the other calls
gets. -/
theorem answers_filter {kind : CallKind} (hkind : kind ≠ .finish) (assembly : Assembly α)
    (calls : List (Call α)) :
    (assembler.answers assembly calls).filter (·.1.kind = kind) =
      assembler.answers (assembly.part kind) (calls.filter (·.kind = kind)) := by
  induction calls generalizing assembly with
  | nil => rfl
  | cons call calls ih =>
    rw [Assembler.answers]
    by_cases h : call.kind = kind
    · rw [List.filter_cons_of_pos (by simpa using h), List.filter_cons_of_pos (by simpa using h),
        Assembler.answers, ih, ← h, respond_part]
    · rw [List.filter_cons_of_neg (by simpa using h), List.filter_cons_of_neg (by simpa using h),
        ih, part_respond_of_ne hkind h]

/-! ## Sessions -/

/-- How an assembly answers the next call after a session, and what the call leaves. -/
structure Responds (calls : List (Call α)) (assembly : Assembly α) : Prop where
  declare : ∀ t fault, (assembler.respond assembly (.declare t)).1 = .error fault ↔
    t.name ∈ calls.filterMap Call.declared? ∧ fault = .repeatedVariable t.name
  require : ∀ c fault, (assembler.respond assembly (.require c)).1 = .error fault ↔
    c.name ∈ (calls.filterMap Call.required?).map (·.name) ∧ fault = .repeatedConstraint c.name
  target : ∀ o, (assembler.respond assembly (.target o)).1 = .ok none
  failed : ∀ call fault, (assembler.respond assembly call).1 = .error fault →
    (assembler.respond assembly call).2 = assembly
  finish : (assembler.respond assembly .finish).2 = assembly

theorem Recorded.responds (h : Recorded calls assembly) : Responds calls assembly where
  declare t fault := by
    rw [respond_declare, ← h.mem_index_iff]
    split <;> simp_all [eq_comm]
  require c fault := by
    rw [respond_require, ← h.mem_constraints_iff]
    split <;> simp_all [eq_comm]
  target o := rfl
  failed call fault := respond_snd_of_error
  finish := by rw [respond_finish]

/-- **Sessions.** After any session the assembly is what the calls say, its index gives every
declared name its position, and the next call is answered by what earlier calls of its kind have
given. Sessions with the same calls of each kind cannot be told apart by the assembly, nor by the
answers that the calls of one kind get. -/
theorem session_outcome (calls : List (Call α)) :
    Recorded calls (assembler.afterCalls {} calls) ∧
      (∀ name j, (assembler.afterCalls {} calls).column? name = some j ↔
        (assembler.afterCalls {} calls).declared[j]? = some name) ∧
      Responds calls (assembler.afterCalls {} calls) ∧
      ∀ others, SameCalls calls others →
        assembler.afterCalls {} others = assembler.afterCalls {} calls ∧
        ∀ kind, kind ≠ .finish →
          (assembler.answers {} others).filter (·.1.kind = kind) =
            (assembler.answers {} calls).filter (·.1.kind = kind) := by
  have h := recorded_afterCalls calls
  refine ⟨h, fun name j => h.indexed.column?_eq_some_iff, h.responds, fun others hsame => ⟨?_, ?_⟩⟩
  · exact ((recorded_afterCalls others).of_sameCalls hsame).unique h
  · intro kind hkind
    rw [answers_filter hkind, answers_filter hkind, hsame kind hkind]

/-- A session with a variable that is declared twice, a constraint whose name is taken, and two
objectives, which is finished too early once. -/
def interruptedSession : List (Call Int) :=
  [.declare ⟨['x'], 0⟩, .target ⟨['f'], [⟨['x'], 2⟩], .minimize⟩, .finish,
    .require ⟨['c'], [⟨['y'], 1⟩], 3, .atMost⟩, .finish, .declare ⟨['x'], 0⟩, .declare ⟨['y'], 0⟩,
    .require ⟨['c'], [⟨['x'], 1⟩], 4, .equal⟩, .target ⟨['g'], [⟨['y'], 1⟩], .maximize⟩, .finish]

/-- The same calls, kind by kind. -/
def sortedSession : List (Call Int) :=
  [.require ⟨['c'], [⟨['y'], 1⟩], 3, .atMost⟩, .require ⟨['c'], [⟨['x'], 1⟩], 4, .equal⟩,
    .target ⟨['f'], [⟨['x'], 2⟩], .minimize⟩, .target ⟨['g'], [⟨['y'], 1⟩], .maximize⟩,
    .declare ⟨['x'], 0⟩, .declare ⟨['x'], 0⟩, .declare ⟨['y'], 0⟩, .finish]

theorem session_outcome_interrupted :
    SameCalls interruptedSession sortedSession ∧
      (assembler.answers {} interruptedSession).map (fun answer => answer.2.isOk) =
        [true, true, true, true, false, false, true, false, true, true] ∧
      Recorded interruptedSession (assembler.afterCalls {} interruptedSession) ∧
      assembler.afterCalls {} sortedSession = assembler.afterCalls {} interruptedSession ∧
      ∀ kind, kind ≠ .finish →
        (assembler.answers {} sortedSession).filter (·.1.kind = kind) =
          (assembler.answers {} interruptedSession).filter (·.1.kind = kind) := by
  have hsame : SameCalls interruptedSession sortedSession := by
    intro kind hkind
    cases kind with
    | finish => exact absurd rfl hkind
    | declare | require | target => rfl
  have h := session_outcome interruptedSession
  exact ⟨hsame, by decide, h.1, h.2.2.2 sortedSession hsame⟩

end Assembly

end LinearProgram
