import Mathlib.Data.List.Basic
import LinearProgram.StandardForm.Assembler

/-!
# The calls that feeding makes

Feeding a model to an assembler makes the calls of the model one after the other
(`Assembler.performAll_calls`) and stops at the first that fails. The calls that are made
(`Assembler.made`) are those that an observed assembler keeps a record of
(`Assembler.observed_feed`). Nothing here depends on what an assembler does.
-/

namespace LinearProgram

variable {σ ε ρ α : Type}

/-! ## One operation after the other -/

theorem bind_eq_ok_iff {β γ : Type} {first : EStateM ε σ β} {next : β → EStateM ε σ γ}
    {s final : σ} {result : γ} : (first >>= next) s = .ok result final ↔
      ∃ value middle, first s = .ok value middle ∧ next value middle = .ok result final := by
  show EStateM.bind first next s = _ ↔ _
  rw [EStateM.bind]
  cases first s with
  | ok value middle => simp
  | error fault middle => simp

theorem bind_eq_of_ok {β γ : Type} {first : EStateM ε σ β} {next : β → EStateM ε σ γ}
    {s middle : σ} {value : β} (h : first s = .ok value middle) :
    (first >>= next) s = next value middle := by
  show EStateM.bind first next s = _
  rw [EStateM.bind, h]

theorem bind_eq_of_error {β γ : Type} {first : EStateM ε σ β} {next : β → EStateM ε σ γ}
    {s final : σ} {fault : ε} (h : first s = .error fault final) :
    (first >>= next) s = .error fault final := by
  show EStateM.bind first next s = _
  rw [EStateM.bind, h]

/-- A result, with the calls that were made on the way to it beside the state. -/
def noted {β : Type} (calls : List (Call α)) :
    EStateM.Result ε σ β → EStateM.Result ε (List (Call α) × σ) β
  | .ok result final => .ok result (calls, final)
  | .error fault final => .error fault (calls, final)

theorem noted_left_inj {β : Type} {calls others : List (Call α)}
    {result : EStateM.Result ε σ β} (h : noted calls result = noted others result) :
    calls = others := by
  cases result with
  | ok value final => exact congrArg Prod.fst (EStateM.Result.ok.inj h).2
  | error fault final => exact congrArg Prod.fst (EStateM.Result.error.inj h).2

namespace Assembler

variable (assembler : Assembler σ ε ρ α)

/-! ## Making calls -/

/-- Makes calls one after the other, up to the first that fails, and collects the results. -/
def performAll : List (Call α) → EStateM ε σ (List ρ)
  | [] => return []
  | call :: rest => do
    let result ← assembler.perform call
    let results ← performAll rest
    return result.toList ++ results

/-- The calls that are made in this way: all up to the first that fails. -/
def made : σ → List (Call α) → List (Call α)
  | _, [] => []
  | state, call :: rest =>
    match assembler.perform call state with
    | .ok _ next => call :: made next rest
    | .error _ _ => [call]

theorem performAll_append (before after : List (Call α)) :
    assembler.performAll (before ++ after) = do
      let first ← assembler.performAll before
      let second ← assembler.performAll after
      return first ++ second := by
  induction before with
  | nil => simp [performAll]
  | cons call before ih =>
    simp [performAll, ih, -List.append_assoc, ← List.append_assoc]

/-- Calls of one kind that have no result. -/
theorem performAll_map {ι : Type} (call : ι → Call α) (operation : ι → EStateM ε σ Unit)
    (h : ∀ i, assembler.perform (call i) = do operation i; return none) (items : List ι) :
    assembler.performAll (items.map call) = do items.forM operation; return [] := by
  induction items with
  | nil => simp [performAll]
  | cons i items ih => simp [performAll, h, ih]

/-- **Feeding a model is making its calls.** -/
theorem performAll_calls (m : Model α) :
    assembler.performAll m.calls = do return [← assembler.feed m] := by
  rw [Model.calls, performAll_append, performAll_append,
    performAll_map assembler .declare assembler.declare fun _ => rfl,
    performAll_map assembler .require assembler.require fun _ => rfl]
  simp [performAll, perform, feed]

variable {assembler} {s middle final : σ} {before after calls : List (Call α)}
  {results more : List ρ} {call : Call α} {fault : ε} {m : Model α}

/-! ## Calls up to the first that fails -/

theorem performAll_append_of_ok (hbefore : assembler.performAll before s = .ok results middle)
    (hafter : assembler.performAll after middle = .ok more final) :
    assembler.performAll (before ++ after) s = .ok (results ++ more) final := by
  rw [performAll_append, bind_eq_of_ok hbefore, bind_eq_of_ok hafter]
  rfl

theorem performAll_append_of_error (hbefore : assembler.performAll before s = .ok results middle)
    (hcall : assembler.perform call middle = .error fault final) (after : List (Call α)) :
    assembler.performAll (before ++ call :: after) s = .error fault final := by
  rw [performAll_append, bind_eq_of_ok hbefore, performAll]
  exact bind_eq_of_error (bind_eq_of_error hcall)

/-- Calls fail as one of them does, after those before it have succeeded. -/
theorem exists_failed_call (h : assembler.performAll calls s = .error fault final) :
    ∃ before call after results middle, calls = before ++ call :: after ∧
      assembler.performAll before s = .ok results middle ∧
      assembler.perform call middle = .error fault final := by
  induction calls generalizing s with
  | nil => cases h
  | cons call calls ih =>
    rw [performAll] at h
    cases hcall : assembler.perform call s with
    | error other last =>
      rw [bind_eq_of_error hcall] at h
      obtain ⟨rfl, rfl⟩ := EStateM.Result.error.inj h
      exact ⟨[], call, calls, [], s, rfl, rfl, hcall⟩
    | ok result next =>
      rw [bind_eq_of_ok hcall] at h
      cases hrest : assembler.performAll calls next with
      | ok results last =>
        rw [bind_eq_of_ok hrest] at h
        cases h
      | error other last =>
        rw [bind_eq_of_error hrest] at h
        obtain ⟨rfl, rfl⟩ := EStateM.Result.error.inj h
        obtain ⟨before, failed, after, results, middle, rfl, hbefore, hfailed⟩ := ih hrest
        refine ⟨call :: before, failed, after, result.toList ++ results, middle, rfl, ?_, hfailed⟩
        rw [performAll, bind_eq_of_ok hcall, bind_eq_of_ok hbefore]
        rfl

theorem made_append_of_ok (hbefore : assembler.performAll before s = .ok results middle)
    (after : List (Call α)) :
    assembler.made s (before ++ after) = before ++ assembler.made middle after := by
  induction before generalizing s results with
  | nil =>
    obtain rfl : s = middle := (EStateM.Result.ok.inj hbefore).2
    rfl
  | cons call before ih =>
    obtain ⟨result, next, hcall, hrest⟩ := bind_eq_ok_iff.1 hbefore
    obtain ⟨others, last, hothers, hlast⟩ := bind_eq_ok_iff.1 hrest
    obtain rfl : last = middle := (EStateM.Result.ok.inj hlast).2
    rw [List.cons_append, made, hcall, List.cons_append, ← ih hothers]

theorem made_of_ok (h : assembler.performAll calls s = .ok results final) :
    assembler.made s calls = calls := by
  have := made_append_of_ok h []
  rwa [List.append_nil, made, List.append_nil] at this

theorem made_append_of_error (hbefore : assembler.performAll before s = .ok results middle)
    (hcall : assembler.perform call middle = .error fault final) (after : List (Call α)) :
    assembler.made s (before ++ call :: after) = before ++ [call] := by
  rw [made_append_of_ok hbefore, made, hcall]

theorem feed_eq_of_ok {result : ρ} (h : assembler.performAll m.calls s = .ok [result] final) :
    assembler.feed m s = .ok result final := by
  rw [performAll_calls] at h
  obtain ⟨value, last, hfeed, hresult⟩ := bind_eq_ok_iff.1 h
  obtain ⟨hvalue, rfl⟩ := EStateM.Result.ok.inj hresult
  rw [hfeed, List.singleton_inj.1 hvalue]

theorem feed_eq_of_error (h : assembler.performAll m.calls s = .error fault final) :
    assembler.feed m s = .error fault final := by
  rw [performAll_calls] at h
  cases hfeed : assembler.feed m s with
  | ok result last =>
    rw [bind_eq_of_ok hfeed] at h
    cases h
  | error other last =>
    rw [bind_eq_of_error hfeed] at h
    obtain ⟨rfl, rfl⟩ := EStateM.Result.error.inj h
    rfl

/-- **A model whose calls all succeed** is fed to the end. -/
theorem feed_finishes {result : ρ} (h : assembler.performAll m.calls s = .ok [result] final) :
    assembler.feed m s = .ok result final ∧ assembler.made s m.calls = m.calls :=
  ⟨feed_eq_of_ok h, made_of_ok h⟩

/-- **A model of whose calls one fails** is fed up to this call and no further. -/
theorem feed_stops (hcalls : m.calls = before ++ call :: after)
    (hbefore : assembler.performAll before s = .ok results middle)
    (hcall : assembler.perform call middle = .error fault final) :
    assembler.feed m s = .error fault final ∧ assembler.made s m.calls = before ++ [call] := by
  refine ⟨feed_eq_of_error ?_, ?_⟩
  · rw [hcalls]
    exact performAll_append_of_error hbefore hcall after
  · rw [hcalls, made_append_of_error hbefore hcall]

/-! ## Observed assemblers -/

/-- An operation that notes its call first does what it does otherwise. -/
theorem noting_map {β γ : Type} (operation : EStateM ε σ β) (f : β → γ) (log : List (Call α))
    (call : Call α) (s : σ) : (do return f (← noting call operation)) (log, s) =
      noted (log ++ [call]) ((do return f (← operation)) s) := by
  cases hoperation : operation s with
  | ok result next =>
    have hnoting : noting call operation (log, s) = .ok result (log ++ [call], next) := by
      rw [noting, hoperation]
    rw [bind_eq_of_ok hoperation, bind_eq_of_ok hnoting]
    rfl
  | error fault next =>
    have hnoting : noting call operation (log, s) = .error fault (log ++ [call], next) := by
      rw [noting, hoperation]
    rw [bind_eq_of_error hoperation, bind_eq_of_error hnoting]
    rfl

theorem observed_perform (assembler : Assembler σ ε ρ α) (call : Call α) (log : List (Call α))
    (s : σ) : assembler.observed.perform call (log, s) =
      noted (log ++ [call]) (assembler.perform call s) := by
  cases call with
  | declare t => exact noting_map (assembler.declare t) (fun _ => none) log _ s
  | require c => exact noting_map (assembler.require c) (fun _ => none) log _ s
  | target o => exact noting_map (assembler.target o) (fun _ => none) log _ s
  | finish => exact noting_map assembler.finish some log _ s

theorem observed_performAll (assembler : Assembler σ ε ρ α) (calls log : List (Call α)) (s : σ) :
    assembler.observed.performAll calls (log, s) =
      noted (log ++ assembler.made s calls) (assembler.performAll calls s) := by
  induction calls generalizing log s with
  | nil =>
    rw [made, List.append_nil]
    rfl
  | cons call calls ih =>
    have hcall := observed_perform assembler call log s
    rw [performAll, performAll, made]
    cases hperform : assembler.perform call s with
    | error fault next =>
      rw [hperform] at hcall
      rw [bind_eq_of_error hperform, bind_eq_of_error hcall]
      rfl
    | ok result next =>
      rw [hperform] at hcall
      rw [bind_eq_of_ok hperform, bind_eq_of_ok hcall]
      have hrest := ih (log ++ [call]) next
      rw [List.append_assoc, List.singleton_append] at hrest
      cases hall : assembler.performAll calls next with
      | ok results last =>
        rw [hall] at hrest
        rw [bind_eq_of_ok hall, bind_eq_of_ok hrest]
        rfl
      | error fault last =>
        rw [hall] at hrest
        rw [bind_eq_of_error hall, bind_eq_of_error hrest]
        rfl

/-- **The record of an observed assembler.** It is of the calls that are made, and the model is fed
as it is otherwise. -/
theorem observed_feed (assembler : Assembler σ ε ρ α) (m : Model α) (log : List (Call α)) (s : σ) :
    assembler.observed.feed m (log, s) =
      noted (log ++ assembler.made s m.calls) (assembler.feed m s) := by
  have h := observed_performAll assembler m.calls log s
  rw [performAll_calls, performAll_calls] at h
  cases hfeed : assembler.feed m s with
  | ok result last =>
    rw [bind_eq_of_ok hfeed] at h
    obtain ⟨value, final, hobserved, hvalue⟩ := bind_eq_ok_iff.1 h
    obtain ⟨hresult, rfl⟩ := EStateM.Result.ok.inj hvalue
    rw [hobserved, List.singleton_inj.1 hresult]
    rfl
  | error fault last =>
    rw [bind_eq_of_error hfeed] at h
    cases hobserved : assembler.observed.feed m (log, s) with
    | ok result final =>
      rw [bind_eq_of_ok hobserved] at h
      cases h
    | error other final =>
      rw [bind_eq_of_error hobserved] at h
      obtain ⟨rfl, rfl⟩ := EStateM.Result.error.inj h
      rfl

end Assembler

end LinearProgram
