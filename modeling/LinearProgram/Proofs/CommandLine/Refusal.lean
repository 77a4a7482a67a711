import LinearProgram.Proofs.CommandLine.Outcome
import LinearProgram.Proofs.Display.Plain

/-!
# Unknown options

Whatever the arguments are, a run comes to an end, and what it quotes in its messages is shown, with
one exception: an unknown option is quoted without being escaped. It is shown as it is exactly when
it is plain (`CommandLine.refusal_unknownOption_iff`). In any other the tags are taken for markup,
and the codes for emojis if the console knows them; and if a tag ends a style that has not been
begun, the run has no outcome (`CommandLine.not_forall_run_ends`).

A console lays a text out as it likes, but what can be seen of the text can be seen of its lines.
Colons, brackets and backslashes can be seen, and these are enough to tell what has been lost.

Main result: `CommandLine.run_ends_of_plain`, for all arguments, in every world, for every solver
and on every console.
-/

namespace LinearProgram

/-! ## Consoles -/

/-- A character that can be seen is as often in texts that look alike. -/
theorem Console.count_of_lines_eq (console : Console) {s t : Text} {c : Char}
    (h : console.lines s = console.lines t) (hc : Screen.isVisible c = true) :
    s.count c = t.count c := by
  have hseen : s.filter Screen.isVisible = t.filter Screen.isVisible := by
    rw [← console.filter_lines s, h, console.filter_lines t]
  rw [← List.count_filter hc, hseen, List.count_filter hc]

/-! ## Runs -/

namespace CommandLine

open Options Markup

variable {console : Console} {argument : Text}

/-- The words of the message for an unknown option: the option, and how the program is to be
called. -/
def unknownOptionWords (argument : Text) : Text :=
  "Unknown option: ".toList ++ (argument ++ '\n' :: usage.toList)

/-- The words around an unknown option. -/
theorem frame_unknownOption : Frame "Unknown option: ".toList ('\n' :: usage.toList) where
  before_ne := by decide
  before_all := by decide
  codes_before _ := rfl
  behind_ne := by decide
  behind_unmarked := by decide +kernel
  codes_behind := by decide +kernel

/-- **An unknown option is shown as it is** exactly when it is plain. -/
theorem refusal_unknownOption_iff : refusal console (.unknownOption argument) =
    .ok (console.lines (unknownOptionWords argument)) ↔ Plain console.emojis argument := by
  have hrefusal : refusal console (.unknownOption argument) = (render console.emojis
      (framed "Unknown option: ".toList argument ('\n' :: usage.toList))).map console.lines := rfl
  rw [hrefusal]
  constructor
  · intro h
    obtain ⟨text, hrender, hlines⟩ := map_eq_ok_iff.1 h
    refine frame_unknownOption.plain_of_render console.colonless hrender fun c hc => ?_
    have hvisible : [':', '[', '\\'].all Screen.isVisible = true := by decide
    exact console.count_of_lines_eq hlines (List.all_eq_true.1 hvisible c hc)
  · intro h
    rw [frame_unknownOption.render_of_plain h]
    rfl

/-- The other messages for arguments that cannot be followed can be printed. -/
theorem exists_refusal (console : Console) {fault : Options.Fault}
    (h : ∀ argument, fault ≠ .unknownOption argument) :
    ∃ lines, refusal console fault = .ok lines := by
  have hlines {s : Text} (h : Usable [] (tagContents (pieces s))) :
      ∃ lines, styledLines console s = .ok lines :=
    ⟨_, map_eq_ok_iff.2 ⟨_, render_of_usable console.emojis h, rfl⟩⟩
  cases fault with
  | missingMethod =>
    refine hlines ?_
    have htags : tagContents (pieces (inErrorStyle "Missing value for --method".toList ++
        '\n' :: usage.toList)) = ["red".toList, "/red".toList] := by decide +kernel
    exact htags ▸ usable_red
  | missingPath =>
    refine hlines ?_
    have htags : tagContents (pieces usage.toList) = [] := by decide +kernel
    exact htags ▸ .done (by simp)
  | unknownOption argument => exact absurd rfl (h argument)

variable {arguments : List Text} {solver : Solver} {world : World} {outcome : Outcome}

/-- A run that comes to an end has one of three statuses. -/
theorem status_of_runUsing (h : runUsing solver console world arguments = .ok outcome) :
    outcome.status = 0 ∨ outcome.status = 1 ∨ outcome.status = 2 := by
  cases hscan : scan arguments with
  | ok options =>
    obtain ⟨outcome', houtcome, hstatus⟩ := exists_runWith solver console world options
    rw [runUsing_of_scan hscan, houtcome, Except.ok.injEq] at h
    rw [← h]
    exact hstatus.imp_right Or.inl
  | error fault =>
    rw [runUsing_of_fault hscan] at h
    obtain ⟨lines, -, rfl⟩ := map_eq_ok_iff.1 h
    exact Or.inr (Or.inr rfl)

/-- A run fails only where an unknown option is to be quoted. -/
theorem runUsing_eq_error_iff {fault : Markup.Fault} :
    runUsing solver console world arguments = .error fault ↔ ∃ argument,
      scan arguments = .error (.unknownOption argument) ∧
        refusal console (.unknownOption argument) = .error fault := by
  constructor
  · intro h
    cases hscan : scan arguments with
    | ok options =>
      obtain ⟨outcome, houtcome, -⟩ := exists_runWith solver console world options
      rw [runUsing_of_scan hscan, houtcome] at h
      simp at h
    | error why =>
      rw [runUsing_of_fault hscan, map_eq_error_iff] at h
      by_cases hunknown : ∃ argument, why = .unknownOption argument
      · obtain ⟨argument, rfl⟩ := hunknown
        exact ⟨argument, rfl, h⟩
      · obtain ⟨lines, hlines⟩ :=
          exists_refusal console fun argument heq => hunknown ⟨argument, heq⟩
        rw [hlines] at h
        simp at h
  · rintro ⟨argument, hscan, hrefusal⟩
    rw [runUsing_of_fault hscan, map_eq_error_iff, hrefusal]

/-- **Runs end.** Unless the first fault of the arguments is an unknown option that is not plain, a
run has an outcome, and in any case it fails only where the message for such an option cannot be
rendered. The status is 0, 1 or 2. An unknown option is shown as it is exactly when it is plain. -/
theorem run_ends_of_plain (solver : Solver) (console : Console) (world : World)
    (arguments : List Text) :
    ((∀ argument, scan arguments = .error (.unknownOption argument) →
        Plain console.emojis argument) →
      ∃ outcome, runUsing solver console world arguments = .ok outcome) ∧
    (∀ fault, runUsing solver console world arguments = .error fault ↔ ∃ argument,
      scan arguments = .error (.unknownOption argument) ∧
        refusal console (.unknownOption argument) = .error fault) ∧
    (∀ outcome, runUsing solver console world arguments = .ok outcome →
      outcome.status = 0 ∨ outcome.status = 1 ∨ outcome.status = 2) ∧
    (∀ argument, scan arguments = .error (.unknownOption argument) →
      (runUsing solver console world arguments =
          .ok ⟨2, console.lines (unknownOptionWords argument), []⟩ ↔
        Plain console.emojis argument)) := by
  refine ⟨fun hplain => ?_, fun _ => runUsing_eq_error_iff, fun _ => status_of_runUsing,
    fun argument hscan => ?_⟩
  · cases hrun : runUsing solver console world arguments with
    | ok outcome => exact ⟨outcome, rfl⟩
    | error fault =>
      obtain ⟨argument, hscan, hrefusal⟩ := runUsing_eq_error_iff.1 hrun
      rw [refusal_unknownOption_iff.2 (hplain argument hscan)] at hrefusal
      simp at hrefusal
  · rw [runUsing_of_fault hscan, ← refusal_unknownOption_iff, map_eq_ok_iff]
    simp

/-- There is no setting and no file. -/
def emptyWorld : World := ⟨[], [], fun _ => .missing⟩

/-- A wide console with two emojis. -/
def smilingConsole : Console where
  __ := Console.wide
  emojis name :=
    if name = "smile".toList then some ['😄'] else if name = ['x'] then some ['❌'] else none
  colonless name shown h := by
    dsimp only at h
    split at h
    · obtain rfl : ['😄'] = shown := by simpa using h
      decide
    · split at h
      · obtain rfl : ['❌'] = shown := by simpa using h
        decide
      · simp at h

/-- An option with brackets that are no tag and a code that is no emoji. -/
def dryRun : List Text := ["plan.lp".toList, "--dry[0]:run:x".toList]

/-- An option with a tag that begins a style. -/
def boldOption : List Text := ["--[bold]x".toList]

/-- An option with the code of an emoji. -/
def smilingOption : List Text := ["--a:X-text:b".toList]

theorem run_ends_of_plain_dryRun :
    scan dryRun = .error (.unknownOption "--dry[0]:run:x".toList) ∧
    (∃ outcome, runUsing exactSolver smilingConsole emptyWorld dryRun = .ok outcome ∧
      (outcome.status = 0 ∨ outcome.status = 1 ∨ outcome.status = 2)) ∧
    runUsing exactSolver smilingConsole emptyWorld dryRun =
      .ok ⟨2, smilingConsole.lines (unknownOptionWords "--dry[0]:run:x".toList), []⟩ ∧
    runUsing exactSolver smilingConsole emptyWorld boldOption ≠
      .ok ⟨2, smilingConsole.lines (unknownOptionWords "--[bold]x".toList), []⟩ ∧
    runUsing exactSolver smilingConsole emptyWorld smilingOption ≠
      .ok ⟨2, smilingConsole.lines (unknownOptionWords "--a:X-text:b".toList), []⟩ := by
  have hscan : scan dryRun = .error (.unknownOption "--dry[0]:run:x".toList) := by decide
  have hscan' : scan boldOption = .error (.unknownOption "--[bold]x".toList) := by decide
  have hscan'' : scan smilingOption = .error (.unknownOption "--a:X-text:b".toList) := by decide
  have hplain : Plain smilingConsole.emojis "--dry[0]:run:x".toList := by decide +kernel
  have hstyled : ¬Plain smilingConsole.emojis "--[bold]x".toList := by decide +kernel
  have hsmiling : ¬Plain smilingConsole.emojis "--a:X-text:b".toList := by decide +kernel
  obtain ⟨hends, -, hstatus, hshown⟩ :=
    run_ends_of_plain exactSolver smilingConsole emptyWorld dryRun
  obtain ⟨-, -, -, hshown'⟩ := run_ends_of_plain exactSolver smilingConsole emptyWorld boldOption
  obtain ⟨-, -, -, hshown''⟩ :=
    run_ends_of_plain exactSolver smilingConsole emptyWorld smilingOption
  obtain ⟨outcome, houtcome⟩ := hends fun argument h => by
    obtain rfl : "--dry[0]:run:x".toList = argument := by simpa [hscan] using h
    exact hplain
  exact ⟨hscan, ⟨outcome, houtcome, hstatus outcome houtcome⟩, (hshown _ hscan).2 hplain,
    fun h => hstyled ((hshown' _ hscan').1 h), fun h => hsmiling ((hshown'' _ hscan'').1 h)⟩

/-- Runs need not end: a tag in an unknown option may end a style that has not been begun. -/
theorem not_forall_run_ends :
    ¬∀ solver console world arguments, ∃ outcome,
      runUsing solver console world arguments = .ok outcome ∧
        (outcome.status = 0 ∨ outcome.status = 1 ∨ outcome.status = 2) := by
  intro h
  obtain ⟨outcome, houtcome, -⟩ := h exactSolver Console.wide emptyWorld ["--[/red]".toList]
  have hfault : (runUsing exactSolver Console.wide emptyWorld ["--[/red]".toList]).toBool =
      false := by decide +kernel
  rw [houtcome] at hfault
  exact absurd hfault (by simp [Except.toBool])

end CommandLine

end LinearProgram
