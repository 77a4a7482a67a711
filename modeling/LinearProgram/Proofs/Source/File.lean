import LinearProgram.Proofs.Notation.LineBreak
import LinearProgram.Proofs.Source.Utf8
import LinearProgram.Proofs.StandardForm.Document
import LinearProgram.Source.File

/-!
# Documents in files and in memory

What is made of a file that holds the bytes of a text is what is made of the text
(`Document.file_agrees`). The two differ in their line breaks, which leave no trace in models and
programs. In faults they do: a fault carries its statement, so only its kind is the same
(`Failure.Alike`).
-/

namespace LinearProgram

variable {path : Text} {state : FileState} {text : Text}

/-! ## What is made of a file -/

theorem fileText_encode (hpath : Char.ofNat 0 ∉ path) (text : Text) :
    fileText path (.contents (Utf8.encode text)) = .ok (unifyBreaks text) := by
  rw [fileText, if_neg (by simpa using hpath)]
  simp only [Utf8.decode_encode]

section Use

variable {ε α : Type} {use : Text → Except ε α}

theorem withFile_of_ok {a : α} (h : fileText path state = .ok text) (hok : use text = .ok a) :
    withFile path state use = .ok a := by
  simp only [withFile, h, hok]

theorem withFile_of_unreadable {fault : FileFault} (h : fileText path state = .error fault) :
    withFile path state use = .error (.file fault) := by
  simp only [withFile, h]

theorem withFile_of_error {fault : ε} (h : fileText path state = .ok text)
    (herror : use text = .error fault) : withFile path state use = .error (.text fault) := by
  simp only [withFile, h, herror]

end Use

/-! ## Failures of one kind -/

/-- Failures that differ at most in the words of a fault in the text. -/
inductive Failure.Alike {ε : Type} : Failure ε → Failure ε → Prop
  | reading {fault fault' : Fault} : fault.cause.kind = fault'.cause.kind →
      Alike (.reading fault) (.reading fault')
  | assembling (fault : ε) : Alike (.assembling fault) (.assembling fault)

namespace Document

/-- Texts that are read alike have the same program, or have none for the same reason. -/
theorem program_of_outcome_eq {policy : Policy} {text other : Text}
    (h : outcome (read policy text) = outcome (read policy other)) :
    (∃ p, program policy text = .ok p ∧ program policy other = .ok p) ∨
      ∃ failure failure', program policy text = .error failure ∧
        program policy other = .error failure' ∧ failure.Alike failure' := by
  rcases outcome_eq_iff.1 h with ⟨m, hm, hm'⟩ | ⟨fault, fault', hfault, hfault', hkind⟩
  · rw [program_of_ok hm, program_of_ok hm']
    cases m.program with
    | ok p => exact Or.inl ⟨p, rfl, rfl⟩
    | error fault => exact Or.inr ⟨_, _, rfl, rfl, .assembling fault⟩
  · exact Or.inr ⟨_, _, program_of_error hfault, program_of_error hfault', .reading hkind⟩

/-- **Files and texts.** A file with the bytes of a text gives the text back up to its line breaks.
It gives the model and the program of the text, or a failure of the same kind if there is none. Its
path is any that a file can have, which is one without the null character. -/
theorem file_agrees (policy : Policy) (hpath : Char.ofNat 0 ∉ path) (text : Text) :
    let state := FileState.contents (Utf8.encode text)
    fileText path state = .ok (unifyBreaks text) ∧
    (∀ m, fileModel policy path state = .ok m ↔ read policy text = .ok m) ∧
    (∀ fault, read policy text = .error fault →
      ∃ fault', fileModel policy path state = .error (.text fault') ∧
        fault.cause.kind = fault'.cause.kind) ∧
    (∀ p, fileProgram policy path state = .ok p ↔ program policy text = .ok p) ∧
    ∀ failure, program policy text = .error failure →
      ∃ failure', fileProgram policy path state = .error (.text failure') ∧
        failure.Alike failure' := by
  have hfile := fileText_encode hpath text
  have houtcome := (outcome_read_unifyBreaks policy text).symm
  refine ⟨hfile, ?_⟩
  rw [← and_assoc]
  constructor
  · rw [fileModel]
    rcases outcome_eq_iff.1 houtcome with ⟨m, hm, hm'⟩ | ⟨fault, fault', hfault, hfault', hkind⟩
    · simp [withFile_of_ok hfile hm', hm]
    · simp [withFile_of_error hfile hfault', hfault, hkind]
  · rw [fileProgram]
    rcases program_of_outcome_eq houtcome with
      ⟨p, hp, hp'⟩ | ⟨failure, failure', hfailure, hfailure', halike⟩
    · simp [withFile_of_ok hfile hp', hp]
    · simpa [withFile_of_error hfile hfailure', hfailure] using halike

/-- A document with line breaks of all three kinds, also inside of statements and of a comment. -/
def threeKinds : Text :=
  "var x;\rvar\r\ny; maximize f:\r\nx +\ry;# profit\rin €\r\n;\nsubject to\rc: y <=\r\n1".toList

/-- What it is read as. -/
def threeKindsModel : Model Number where
  declarations := [⟨['x'], 0⟩, ⟨['y'], 0⟩]
  constraints := [⟨['c'], [⟨['y'], 1⟩], 1, .atMost⟩]
  objective := ⟨['f'], [⟨['x'], 1⟩, ⟨['y'], 1⟩], .maximize⟩

theorem file_agrees_threeKinds :
    let path := "/plan.lp".toList
    let state := FileState.contents (Utf8.encode threeKinds)
    Char.ofNat 0 ∉ path ∧ fileModel {} path state = .ok threeKindsModel ∧
      ∃ p, program {} threeKinds = .ok p ∧ fileProgram {} path state = .ok p := by
  intro path state
  have hpath : Char.ofNat 0 ∉ path := by decide +kernel
  have hread : read {} threeKinds = .ok threeKindsModel := by decide +kernel
  have hprogram : ∃ p, program {} threeKinds = .ok p := of_decide_eq_true (by decide +kernel)
  obtain ⟨p, hp⟩ := hprogram
  obtain ⟨-, hmodel, -, hprogram, -⟩ := file_agrees {} hpath threeKinds
  exact ⟨hpath, (hmodel threeKindsModel).2 hread, p, hp, (hprogram p).2 hp⟩

/-- The words of a fault show how a line break was written. -/
example : ∃ fault fault',
    read {} "subject\rto c: x <= 1".toList = .error fault ∧
      read {} (unifyBreaks "subject\rto c: x <= 1".toList) = .error fault' ∧
        fault.cause = .unknownStatement ∧ fault'.cause = .unknownStatement ∧ fault ≠ fault' :=
  ⟨⟨.unknownStatement, some "subject\rto c: x <= 1".toList⟩,
    ⟨.unknownStatement, some "subject\nto c: x <= 1".toList⟩, by decide +kernel⟩

end Document

end LinearProgram
