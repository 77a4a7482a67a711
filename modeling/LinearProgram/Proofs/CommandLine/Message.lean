import LinearProgram.CommandLine.Run
import LinearProgram.Proofs.Display.Rendering
import LinearProgram.Proofs.Sequence

/-!
# Error messages

Whatever is wrong, the message that says so can be printed: no text that it quotes is taken for
style markup. What is printed says what it is meant to say, up to backslashes and with emojis in the
place of their codes (`Says`).

No message ends in a backslash (`EndsPlainly`), so the tag at the end of its style is one.

Main result: `LoadFault.report_says`, for all that can be wrong before there is a program to show.
-/

namespace LinearProgram

/-! ## The ends of messages -/

/-- A message with an end that is no backslash. -/
def EndsPlainly (message : String) : Prop := ∃ c, message.toList.getLast? = some c ∧ c ≠ '\\'

theorem EndsPlainly.append {message : String} (h : EndsPlainly message) (before : String) :
    EndsPlainly (before ++ message) := by
  obtain ⟨c, hlast, hc⟩ := h
  exact ⟨c, by rw [String.toList_append, List.getLast?_append, hlast]; rfl, hc⟩

theorem EndsPlainly.getLast?_ne {message : String} (h : EndsPlainly message) :
    message.toList.getLast? ≠ some '\\' := by
  obtain ⟨c, hlast, hc⟩ := h
  simpa [hlast] using hc

theorem endsPlainly_of_any {message : String}
    (h : message.toList.getLast?.any (· != '\\') = true) : EndsPlainly message := by
  cases hlast : message.toList.getLast? with
  | none => simp [hlast] at h
  | some c => exact ⟨c, hlast, by simpa [hlast] using h⟩

theorem endsPlainly_quoted (s : Text) : EndsPlainly (quoted s) := by
  refine ⟨quoteFor s, ?_, ?_⟩
  · rw [quoted, String.toList_ofList, ← List.cons_append, List.getLast?_append]
    rfl
  · rw [quoteFor]
    split <;> decide

theorem Defect.endsPlainly_message (defect : Defect) : EndsPlainly defect.message := by
  cases defect with
  | unsupportedOperator token => exact (endsPlainly_quoted token).append _
  | _ => exact endsPlainly_of_any (by decide)

theorem Fault.endsPlainly_message (fault : Fault) : EndsPlainly fault.message := by
  obtain ⟨cause, _ | statement⟩ := fault
  · cases cause with
    | invalidLiteral literal => exact (endsPlainly_quoted literal).append _
    | incomplete defect => exact defect.endsPlainly_message
    | _ => exact endsPlainly_of_any (by decide)
  · exact (endsPlainly_quoted statement).append _

theorem AssemblyFault.endsPlainly_message (fault : AssemblyFault) : EndsPlainly fault.message := by
  cases fault with
  | missingObjective => exact endsPlainly_of_any (by decide)
  | _ => exact (endsPlainly_of_any (by decide)).append _

theorem Utf8.Fault.endsPlainly_message (fault : Utf8.Fault) : EndsPlainly fault.message := by
  have hreason : EndsPlainly fault.reason.message := by
    cases fault.reason <;> exact endsPlainly_of_any (by decide)
  exact hreason.append _

theorem SettingsFault.endsPlainly_message (fault : SettingsFault) : EndsPlainly fault.message := by
  cases fault with
  | notUtf8 fault => exact fault.endsPlainly_message
  | nullCharacter => exact endsPlainly_of_any (by decide)
  | illegalName => exact endsPlainly_of_any (by decide)
  | policy fault =>
    cases fault with
    | unknownRepeatedObjective value => exact (endsPlainly_of_any (by decide)).append _
    | unknownStrictness value => exact (endsPlainly_quoted value).append _

theorem FileFault.endsPlainly_systemMessage (number : Nat) (words : String) (path : Text) :
    EndsPlainly (systemMessage number words path) := (endsPlainly_quoted path).append _

theorem FileFault.endsPlainly_message (fault : FileFault) : EndsPlainly fault.message := by
  cases fault with
  | nullInPath => exact endsPlainly_of_any (by decide)
  | notUtf8 fault => exact fault.endsPlainly_message
  | _ => exact endsPlainly_systemMessage _ _ _

/-- What the system says begins with a bracket, before the number of the reason. -/
theorem FileFault.head?_message (fault : FileFault) (h : fault.isSystem = true) :
    fault.message.toList.head? = some '[' := by
  have hsystem (number : Nat) (words : String) (path : Text) :
      (systemMessage number words path).toList.head? = some '[' := by
    rw [systemMessage, String.toList_append, String.toList_append, List.append_assoc,
      List.head?_append]
    rfl
  cases fault with
  | nullInPath => simp [isSystem] at h
  | notUtf8 fault => simp [isSystem] at h
  | _ => exact hsystem _ _ _

theorem Method.endsPlainly_unknownMessage (name : Text) : EndsPlainly (unknownMessage name) :=
  (endsPlainly_of_any (by decide)).append _

/-! ## Printed messages -/

/-- Lines that say what is given, and nothing else, up to backslashes. The words are printed in
chunks, with emojis in the place of the codes in each of them. -/
def Says (console : Console) (lines : List Text) (words : Text) : Prop :=
  ∃ chunks : List Text, lines = console.lines (chunks.flatMap (Emoji.replace console.emojis)) ∧
    Markup.unslashed chunks.flatten = Markup.unslashed words

namespace CommandLine

open Markup

variable (console : Console)

/-- What follows a message in the style of errors. -/
theorem continues_endRed {s : Text} (h : s.getLast? ≠ some '\\') :
    Continues s "[/red]".toList where
  closes := by decide
  slash hs := absurd hs h

/-- A text in the style of errors is printed as it is shown. -/
theorem styledLines_says {x shown : Text} (h : ShownAs x "[/red]".toList shown) :
    ∃ lines, styledLines console (inErrorStyle x) = .ok lines ∧ Says console lines shown := by
  obtain ⟨chunks, hrender, hwords⟩ := render_red console.emojis h
  exact ⟨_, map_eq_ok_iff.2 ⟨_, hrender, rfl⟩, chunks, rfl, hwords⟩

/-- The words of an error message. -/
def errorWords (message : String) : Text := "Error: ".toList ++ message.toList

theorem errorLines_says {message : String} (h : EndsPlainly message) :
    ∃ lines, errorLines console message = .ok lines ∧
      Says console lines (errorWords message) := by
  have hmessage := shownAs_escape (continues_endRed h.getLast?_ne)
  have hshown : ShownAs ("Error: ".toList ++ escape message.toList) "[/red]".toList
      (errorWords message) := (shownAs_of_all (by decide) _).append hmessage
  exact styledLines_says console hshown

/-- The words of the message for a file that the system cannot read. -/
def unreadableWords (path : Text) (message : String) : Text :=
  "Cannot read ".toList ++ (path ++ (": ".toList ++ message.toList))

theorem unreadableLines_says (path : Text) {message : String} (h : EndsPlainly message)
    (hbracket : message.toList.head? = some '[') :
    ∃ lines, unreadableLines console path message = .ok lines ∧
      Says console lines (unreadableWords path message) := by
  have hend : ShownAs (escape message.toList) "[/red]".toList message.toList :=
    shownAs_escape (continues_endRed h.getLast?_ne)
  have hcolon : ShownAs ": ".toList (escape message.toList ++ "[/red]".toList) ": ".toList :=
    shownAs_of_all (by decide) _
  have hcontinues : Continues path
      ((": ".toList ++ escape message.toList) ++ "[/red]".toList) := by
    refine ⟨?_, fun _ => escapedTagAt?_eq_none (by simp) (by simp)⟩
    rw [List.append_assoc, firstBracket?_append_of_forall (Text.forall_of_all (by decide)),
      firstBracket?_append (c := '[')
        (by rw [firstBracket?_escape h.getLast?_ne, firstBracket?_of_head? hbracket])]
    decide
  have hshown : ShownAs ("Cannot read ".toList ++ (escape path ++ (": ".toList ++
      escape message.toList))) "[/red]".toList (unreadableWords path message) :=
    (shownAs_of_all (by decide) _).append
      ((shownAs_escape hcontinues).append (hcolon.append hend))
  rw [unreadableLines, List.append_assoc, List.append_assoc]
  exact styledLines_says console hshown

/-! ## Faults before there is a program -/

namespace LoadFault

/-- What the message says. -/
def words (path : Text) : LoadFault → Text
  | .settings fault => errorWords fault.message
  | .file fault =>
    if fault.isSystem then unreadableWords path fault.message else errorWords fault.message
  | .document (.reading fault) => errorWords fault.message
  | .document (.assembling fault) => errorWords fault.message

/-- **Every fault can be reported.** -/
theorem report_says (path : Text) (fault : LoadFault) :
    ∃ lines, fault.report console path = .ok lines ∧
      Says console lines (fault.words path) := by
  cases fault with
  | settings fault => exact errorLines_says console fault.endsPlainly_message
  | file fault =>
    have hmessage := fault.endsPlainly_message
    rw [report, words]
    cases hsystem : fault.isSystem with
    | false => exact errorLines_says console hmessage
    | true => exact unreadableLines_says console path hmessage (fault.head?_message hsystem)
  | document failure =>
    cases failure with
    | reading fault => exact errorLines_says console fault.endsPlainly_message
    | assembling fault => exact errorLines_says console fault.endsPlainly_message

end LoadFault

end CommandLine

/-! ## First lines -/

/-- What is said with words that begin with a letter does not begin with an empty line. -/
theorem Says.head?_ne {console : Console} {lines : List Text} {c : Char} {words : Text}
    (h : Says console lines (c :: words)) (hc : c = 'C' ∨ c = 'E') : lines.head? ≠ some [] := by
  obtain ⟨chunks, rfl, hwords⟩ := h
  have hslash : c ≠ '\\' := by rcases hc with rfl | rfl <;> decide
  have hhead : (Markup.unslashed chunks.flatten).head? = some c := by
    rw [hwords, Markup.unslashed, List.filter_cons_of_pos (by simpa using hslash), List.head?_cons]
  cases hflat : chunks.flatten with
  | nil => simp [hflat, Markup.unslashed] at hhead
  | cons d text =>
    rw [hflat] at hhead
    have hd : d = '\\' ∨ d = 'C' ∨ d = 'E' := by
      by_cases hd : d = '\\'
      · exact Or.inl hd
      · rw [Markup.unslashed, List.filter_cons_of_pos (by simpa using hd), List.head?_cons,
          Option.some.injEq] at hhead
        rw [hhead]
        exact Or.inr hc
    have hcolon : d ≠ ':' := by rcases hd with rfl | rfl | rfl <;> decide
    have hvisible : Screen.isVisible d = true := by rcases hd with rfl | rfl | rfl <;> decide
    obtain ⟨rest, hrest⟩ : ∃ rest, chunks.flatMap (Emoji.replace console.emojis) = d :: rest :=
      Emoji.exists_flatMap_replace_cons hflat hcolon
    rw [hrest]
    exact console.head?_lines_ne hvisible rest

end LinearProgram
