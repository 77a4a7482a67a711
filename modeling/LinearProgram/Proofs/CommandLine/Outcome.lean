import LinearProgram.Proofs.CommandLine.Message
import LinearProgram.Proofs.CommandLine.Options
import LinearProgram.Proofs.Source.File
import LinearProgram.Proofs.StandardForm.Document
import LinearProgram.Proofs.StandardForm.Feeding

/-!
# How runs end

A run makes of the settings and of the file what anyone makes of them who takes the policy from the
settings and the program from the file (`Given`, `given_value_load`). It ends in one of two ways: it
displays the model and the program, or it prints one error message and nothing else. Displays begin
with an empty line and error messages do not, so the two can be told apart from the printed lines
(`Outcome.Displays`, `not_displays_of_says`).

Main result: `CommandLine.run_agrees`, for all arguments that can be followed, for every solver and
on every console.
-/

namespace LinearProgram

namespace CommandLine

variable {console : Console} {world : World} {options : Options} {arguments : List Text}
variable {outcome : Outcome}
variable {m : Model Number} {p : Program Number} {fault : LoadFault}

/-! ## What there is to display -/

/-- The policy, with strict operators if the arguments ask for them. -/
def requestedPolicy (arguments : List Text) (policy : Policy) : Policy :=
  { policy with
    strictOperators := policy.strictOperators || arguments.contains Options.strictOption }

/-- What the settings and the file at a path give: a model and its program, or what is wrong. -/
inductive Given (world : World) (arguments : List Text) (path : Text) :
    Except LoadFault (Model Number × Program Number) → Prop
  | settings {fault : SettingsFault} :
      Policy.ofSettings world.environment world.settingsFile = .error fault →
      Given world arguments path (.error (.settings fault))
  | file {policy : Policy} {fault : FileFault} :
      Policy.ofSettings world.environment world.settingsFile = .ok policy →
      Document.fileProgram (requestedPolicy arguments policy) path (world.files path) =
        .error (.file fault) →
      Given world arguments path (.error (.file fault))
  | document {policy : Policy} {failure : Failure AssemblyFault} :
      Policy.ofSettings world.environment world.settingsFile = .ok policy →
      Document.fileProgram (requestedPolicy arguments policy) path (world.files path) =
        .error (.text failure) →
      Given world arguments path (.error (.document failure))
  | program {policy : Policy} {m : Model Number} {p : Program Number} :
      Policy.ofSettings world.environment world.settingsFile = .ok policy →
      Document.fileModel (requestedPolicy arguments policy) path (world.files path) = .ok m →
      Document.fileProgram (requestedPolicy arguments policy) path (world.files path) = .ok p →
      Given world arguments path (.ok (m, p))

theorem effectivePolicy_eq (h : Options.scan arguments = .ok options) (policy : Policy) :
    effectivePolicy options policy = requestedPolicy arguments policy := by
  have hstrict := (Options.flags_scan h).2
  rw [effectivePolicy, requestedPolicy]
  by_cases hmem : Options.strictOption ∈ arguments
  · simp [hmem, hstrict]
  · simp [hmem, hstrict]

section Assembled

variable {policy : Policy} {text : Text}

theorem value_assembled_of_error {failure : Failure AssemblyFault}
    (h : Document.program policy text = .error failure) :
    (assembled policy text).value = .error (.document failure) := by
  cases hread : Document.read policy text with
  | error fault =>
    rw [Document.program_of_error hread, Except.error.injEq] at h
    simp only [assembled, hread, h]
  | ok m =>
    rw [Document.program_of_ok hread] at h
    cases hp : m.program with
    | error fault =>
      rw [hp, Except.mapError, Except.error.injEq] at h
      simp only [assembled, hread, hp, h]
    | ok p => simp [hp, Except.mapError] at h

theorem value_assembled_of_ok (hm : Document.read policy text = .ok m) (hp : m.program = .ok p) :
    (assembled policy text).value = .ok (m, p) := by
  simp only [assembled, hm, hp]

end Assembled

/-- What a run goes on with is what is given. -/
theorem given_value_load (world : World) (h : Options.scan arguments = .ok options) :
    Given world arguments options.path (load world options).value := by
  rw [load]
  cases hpolicy : Policy.ofSettings world.environment world.settingsFile with
  | error fault => exact .settings hpolicy
  | ok policy =>
    dsimp only
    rw [effectivePolicy_eq h]
    cases hfile : fileText options.path (world.files options.path) with
    | error fault => exact .file hpolicy (withFile_of_unreadable hfile)
    | ok text =>
      dsimp only
      cases hprogram : Document.program (requestedPolicy arguments policy) text with
      | error failure =>
        rw [value_assembled_of_error hprogram]
        exact .document hpolicy (withFile_of_error hfile hprogram)
      | ok p =>
        obtain ⟨m, hm, hp⟩ := Document.program_eq_ok_iff.1 hprogram
        rw [value_assembled_of_ok hm hp]
        exact .program hpolicy (withFile_of_ok hfile hm) (withFile_of_ok hfile hprogram)

/-- There is only one thing that they give. -/
theorem Given.unique {path : Text}
    {result result' : Except LoadFault (Model Number × Program Number)}
    (h : Given world arguments path result) (h' : Given world arguments path result') :
    result = result' := by
  cases h <;> cases h' <;> simp_all

/-- There is something to display when the settings give a policy and the file a program. -/
theorem exists_given_iff (world : World) (h : Options.scan arguments = .ok options) :
    (∃ m p, Given world arguments options.path (.ok (m, p))) ↔
      ∃ policy p, Policy.ofSettings world.environment world.settingsFile = .ok policy ∧
        Document.fileProgram (requestedPolicy arguments policy) options.path
          (world.files options.path) = .ok p := by
  constructor
  · rintro ⟨m, p, hgiven⟩
    cases hgiven with
    | program hpolicy _ hp => exact ⟨_, p, hpolicy, hp⟩
  · rintro ⟨policy, p, hpolicy, hp⟩
    have hgiven := given_value_load world h
    cases hload : (load world options).value with
    | ok given => exact ⟨given.1, given.2, hload ▸ hgiven⟩
    | error fault =>
      rw [hload] at hgiven
      cases hgiven <;> simp_all

/-! ## What is printed -/

/-- A run displays a model and its program before anything else. -/
def Outcome.Displays (console : Console) (outcome : Outcome) (m : Model Number)
    (p : Program Number) : Prop :=
  m.report console ++ p.report console <+: outcome.output

/-- The report of a model begins with an empty line. -/
theorem head?_report (console : Console) (m : Model Number) :
    (m.report console).head? = some [] := by
  have hlines (s : Text) : console.lines ('\n' :: s) = [] :: console.lines s := by
    have := console.lines_append_cons [] s
    rwa [console.lines_nil] at this
  rw [Model.report, hlines]
  rfl

theorem LoadFault.exists_words (path : Text) (fault : LoadFault) :
    ∃ c words, fault.words path = c :: words ∧ (c = 'C' ∨ c = 'E') := by
  have herror (message : String) : ∃ c words, errorWords message = c :: words ∧
      (c = 'C' ∨ c = 'E') := ⟨'E', _, rfl, Or.inr rfl⟩
  cases fault with
  | settings fault => exact herror _
  | file fault =>
    rw [words]
    split
    · exact ⟨'C', _, rfl, Or.inl rfl⟩
    · exact herror _
  | document failure => cases failure <;> exact herror _

/-- An error message is no display. -/
theorem not_displays_of_says {path : Text}
    (h : Says console outcome.output (fault.words path)) : ¬outcome.Displays console m p := by
  intro ⟨rest, hrest⟩
  obtain ⟨c, words, hwords, hc⟩ := fault.exists_words path
  rw [hwords] at h
  refine h.head?_ne hc ?_
  rw [← hrest, List.append_assoc, List.head?_append, head?_report]
  rfl

/-! ## How a run ends -/

/-- The program is solved by the method that is asked for. -/
def SolvedBy (solver : Solver) (p : Program Number) (name : Text) : Prop :=
  ∃ method, Method.ofLabel? name = some method ∧ (p.solve solver method).value.solved = true

theorem exists_solvePart (solver : Solver) (console : Console) (options : Options)
    (p : Program Number) :
    ∃ solved, solvePart solver console options p = .ok solved ∧
      (solved.status = 0 ↔ SolvedBy solver p options.method) ∧
      (solved.status = 0 ∨ solved.status = 1) := by
  cases hmethod : Method.ofLabel? options.method with
  | none =>
    obtain ⟨lines, hlines, -⟩ :=
      errorLines_says console (Method.endsPlainly_unknownMessage options.method)
    refine ⟨⟨1, lines, []⟩, ?_, by simp [SolvedBy, hmethod], Or.inr rfl⟩
    simp only [solvePart, Program.solveNamed, hmethod, hlines, Except.map]
  | some method =>
    let result := p.solve solver method
    refine ⟨⟨if result.value.solved then 0 else 1, result.value.rounded.report console,
      result.entries⟩, by simp only [solvePart, Program.solveNamed, hmethod, result], ?_⟩
    cases hsolved : (p.solve solver method).value.solved <;> simp [SolvedBy, hmethod, hsolved]

/-- A run in which something is wrong prints that, and nothing else. -/
theorem runWith_of_error (solver : Solver) (console : Console)
    (h : (load world options).value = .error fault) :
    ∃ outcome, runWith solver console world options = .ok outcome ∧ outcome.status = 1 ∧
      Says console outcome.output (fault.words options.path) := by
  obtain ⟨lines, hlines, hsays⟩ := fault.report_says console options.path
  refine ⟨⟨1, lines, shown options (load world options).entries⟩, ?_, rfl, hsays⟩
  simp only [runWith, h, hlines, Except.map]

/-- A run that has a program displays it with its model. -/
theorem runWith_of_ok (solver : Solver) (console : Console)
    (h : (load world options).value = .ok (m, p)) :
    ∃ outcome, runWith solver console world options = .ok outcome ∧
      outcome.Displays console m p ∧
      (outcome.status = 0 ↔ options.solve = false ∨ SolvedBy solver p options.method) ∧
      (outcome.status = 0 ∨ outcome.status = 1) := by
  cases hsolve : options.solve with
  | false =>
    refine ⟨⟨0, m.report console ++ p.report console,
      shown options (load world options).entries⟩, ?_,
      List.prefix_rfl, by simp, Or.inl rfl⟩
    simp only [runWith, h, hsolve, Bool.false_eq_true, if_false]
  | true =>
    obtain ⟨solved, hpart, hstatus, hrange⟩ := exists_solvePart solver console options p
    refine ⟨⟨solved.status, m.report console ++ p.report console ++ solved.output,
      shown options ((load world options).entries ++ solved.entries)⟩, ?_,
      List.prefix_append _ _, by simpa using hstatus, hrange⟩
    simp only [runWith, h, hsolve, hpart, Except.map, if_true]

/-- A run whose arguments have been read comes to an end. -/
theorem exists_runWith (solver : Solver) (console : Console) (world : World) (options : Options) :
    ∃ outcome, runWith solver console world options = .ok outcome ∧
      (outcome.status = 0 ∨ outcome.status = 1) := by
  cases hload : (load world options).value with
  | error fault =>
    obtain ⟨outcome, houtcome, hstatus, -⟩ := runWith_of_error solver console hload
    exact ⟨outcome, houtcome, Or.inr hstatus⟩
  | ok given =>
    obtain ⟨outcome, houtcome, -, -, hrange⟩ := runWith_of_ok solver console hload
    exact ⟨outcome, houtcome, hrange⟩

theorem runUsing_of_scan (h : Options.scan arguments = .ok options) (solver : Solver)
    (console : Console) (world : World) :
    runUsing solver console world arguments = runWith solver console world options := by
  simp only [runUsing, h]

theorem runUsing_of_fault {fault : Options.Fault} (h : Options.scan arguments = .error fault)
    (solver : Solver) (console : Console) (world : World) :
    runUsing solver console world arguments =
      (refusal console fault).map fun lines => ⟨2, lines, []⟩ := by
  simp only [runUsing, h]

/-- Without solving, the method does not matter. -/
theorem runWith_method (solver : Solver) (console : Console) (world : World)
    (h : options.solve = false) (method : Text) :
    runWith solver console world { options with method := method } =
      runWith solver console world options := by
  simp only [runWith, h]
  rfl

/-- How a run agrees with what the settings and the file give. -/
structure Agrees (solver : Solver) (console : Console) (world : World) (arguments : List Text)
    (options : Options) (outcome : Outcome) : Prop where
  /-- There are displays exactly when the settings give a policy and the file a program. -/
  displays : (∃ m p, outcome.Displays console m p) ↔
    ∃ policy p, Policy.ofSettings world.environment world.settingsFile = .ok policy ∧
      Document.fileProgram (requestedPolicy arguments policy) options.path
        (world.files options.path) = .ok p
  /-- Without displays, all that is printed is what is wrong. -/
  message : (¬∃ m p, outcome.Displays console m p) → outcome.status = 1 ∧
    ∃ fault, Given world arguments options.path (.error fault) ∧
      Says console outcome.output (fault.words options.path)
  /-- The displays are those of what is given, and the status tells how solving has ended. -/
  status : ∀ m p, Given world arguments options.path (.ok (m, p)) → outcome.Displays console m p ∧
    (outcome.status = 0 ↔
      Options.solveOption ∉ arguments ∨ SolvedBy solver p options.method) ∧
    (outcome.status = 0 ∨ outcome.status = 1)

/-- A run agrees, whatever it has to go on with. -/
theorem exists_agrees (solver : Solver) (console : Console) (world : World)
    (h : Options.scan arguments = .ok options) :
    ∃ outcome, runWith solver console world options = .ok outcome ∧
      Agrees solver console world arguments options outcome := by
  have hgiven := given_value_load world h
  have hdisplays := exists_given_iff world h
  cases hload : (load world options).value with
  | error fault =>
    rw [hload] at hgiven
    obtain ⟨outcome, houtcome, hstatus, hsays⟩ := runWith_of_error solver console hload
    have hnone : ¬∃ m p, outcome.Displays console m p := fun ⟨_, _, h⟩ =>
      not_displays_of_says hsays h
    have hnothing {m : Model Number} {p : Program Number} :
        ¬Given world arguments options.path (.ok (m, p)) := fun h => by
      simpa using hgiven.unique h
    refine ⟨outcome, houtcome, ?_, fun _ => ⟨hstatus, fault, hgiven, hsays⟩, ?_⟩
    · rw [← hdisplays]
      exact ⟨fun h => absurd h hnone, fun ⟨_, _, h⟩ => absurd h hnothing⟩
    · exact fun _ _ h => absurd h hnothing
  | ok given =>
    obtain ⟨m, p⟩ := given
    rw [hload] at hgiven
    obtain ⟨outcome, houtcome, hshown, hstatus, hrange⟩ := runWith_of_ok solver console hload
    rw [Options.solve_eq_false_iff h] at hstatus
    refine ⟨outcome, houtcome, ?_, fun hnone => absurd ⟨m, p, hshown⟩ hnone, ?_⟩
    · rw [← hdisplays]
      exact ⟨fun _ => ⟨m, p, hgiven⟩, fun _ => ⟨m, p, hshown⟩⟩
    · intro m' p' h'
      obtain ⟨rfl, rfl⟩ : m = m' ∧ p = p' := by simpa using hgiven.unique h'
      exact ⟨hshown, hstatus, hrange⟩

/-- **The end of a run** whose arguments can be followed. Unless a program is to be solved, it is
the same with every method. -/
theorem run_agrees (solver : Solver) (console : Console) (world : World)
    (h : Options.scan arguments = .ok options) :
    (∃ outcome, runUsing solver console world arguments = .ok outcome ∧
      Agrees solver console world arguments options outcome) ∧
    (Options.solveOption ∉ arguments → ∀ arguments' method,
      Options.scan arguments' = .ok { options with method := method } →
      runUsing solver console world arguments' = runUsing solver console world arguments) := by
  constructor
  · rw [runUsing_of_scan h]
    exact exists_agrees solver console world h
  · intro hnot arguments' method h'
    have hsolve := (Options.solve_eq_false_iff h).2 hnot
    rw [runUsing_of_scan h, runUsing_of_scan h', runWith_method solver console world hsolve]

/-- Every file holds the same small document. -/
def smallWorld : World where
  environment := []
  settingsFile := []
  files _ := .contents (Utf8.encode "var x; maximize f: x; subject to c: x <= 1".toList)

/-- A method is named that there is not, but nothing is to be solved. -/
def unknownMethod : List Text := ["--method".toList, "guess".toList, "plan.lp".toList]

theorem run_agrees_unknownMethod :
    ∃ options outcome, Options.scan unknownMethod = .ok options ∧
      Method.ofLabel? options.method = none ∧
      runUsing exactSolver Console.wide smallWorld unknownMethod = .ok outcome ∧
      outcome.status = 0 ∧ (∃ m p, outcome.Displays Console.wide m p) ∧
      runUsing exactSolver Console.wide smallWorld ["plan.lp".toList] = .ok outcome := by
  let options : Options := ⟨"plan.lp".toList, false, false, false, "guess".toList⟩
  have hscan : Options.scan unknownMethod = .ok options := by decide +kernel
  have hsolve : Options.solveOption ∉ unknownMethod := by decide
  have hpolicy : Policy.ofSettings smallWorld.environment smallWorld.settingsFile = .ok {} := by
    decide +kernel
  have hprogram : ∃ p, Document.fileProgram (requestedPolicy unknownMethod {}) options.path
      (smallWorld.files options.path) = .ok p := of_decide_eq_true (by decide +kernel)
  obtain ⟨⟨outcome, hrun, hagrees⟩, hmethod⟩ :=
    run_agrees exactSolver Console.wide smallWorld hscan
  obtain ⟨p, hp⟩ := hprogram
  have hdisplays := hagrees.displays.2 ⟨_, p, hpolicy, hp⟩
  obtain ⟨m, q, hgiven⟩ := (exists_given_iff smallWorld hscan).2 ⟨_, p, hpolicy, hp⟩
  have hstatus := (hagrees.status m q hgiven).2.1.2 (Or.inl hsolve)
  refine ⟨options, outcome, hscan, by decide, hrun, hstatus, hdisplays, ?_⟩
  rw [hmethod hsolve ["plan.lp".toList] Method.automatic.label.toList (by decide +kernel), hrun]

/-- A path that looks like a tag is quoted in the message for a file that is missing. -/
example : (run { smallWorld with files := fun _ => .missing } ["[/red]".toList]).map
    (fun outcome => (outcome.status, outcome.output)) = .ok (1,
      ["Cannot read [/red]: [Errno 2] No such file or directory: '[/red]'".toList]) := by
  decide +kernel

end CommandLine

end LinearProgram
