import LinearProgram.Proofs.Notation.Form

/-!
# The grammar of the notation

Each reader of statements has a grammar, which is the type of its forms. A reader follows its
grammar (`ReadsForms`) when it accepts the texts of the forms and no others, gives what the form
means, and no text has two forms.

**All three readers follow their grammars** (`readers_read_forms`). That a text has one form is seen
from left to right: every part is a run of characters of one class, and what follows it does not
begin with a character of that class, so the part and the rest can be told apart
(`Text.append_inj_of_stops`).
-/

namespace LinearProgram

/-- The reader accepts the texts of the forms and no others, and gives what the form means. No text
has two forms. -/
structure ReadsForms {φ α : Type} (reader : Text → Except Fault α) (text : φ → Text)
    (meaning : φ → α) : Prop where
  eq_ok_iff : ∀ s value, reader s = .ok value ↔ ∃ f, text f = s ∧ meaning f = value
  unique : Function.Injective text

namespace Statement

/-! ## One form for a text -/

theorem DeclarationForm.text_injective : Function.Injective DeclarationForm.text := by
  intro f g h
  have hvar (x : Text) : Text.Stops isBlank (varKeyword ++ x) :=
    trimmed_varKeyword.stops_isBlank.append (by decide) x
  have hafter (blanks : Blanks) : Text.Stops isWord blanks.1 :=
    Text.stops_of_forall fun c hc => isWord_of_isBlank (blanks.2 c hc)
  simp only [text, core, List.append_assoc] at h
  obtain ⟨hbefore, h⟩ := Text.append_inj_of_stops f.before.2 g.before.2 (hvar _) (hvar _) h
  obtain ⟨hgap, h⟩ := Text.append_inj_of_stops f.gap.2.2 g.gap.2.2
    (f.name.stops_isBlank _) (g.name.stops_isBlank _) (List.append_cancel_left h)
  obtain ⟨hname, hafter⟩ := Text.append_inj_of_stops (fun c => isWord_of_isName f.name.2)
    (fun c => isWord_of_isName g.name.2) (hafter f.after) (hafter g.after) h
  exact DeclarationForm.ext (Subtype.ext hbefore) (Subtype.ext hgap) (Subtype.ext hname)
    (Subtype.ext hafter)

/-- Neither keyword of an objective begins with the other. -/
theorem keyword_append_inj {d e : Direction} {x y : Text} (h : keyword d ++ x = keyword e ++ y) :
    d = e ∧ x = y := by
  cases d with
  | minimize =>
    cases e with
    | minimize => exact ⟨rfl, List.append_cancel_left h⟩
    | maximize => simp [keyword, minimizeKeyword, maximizeKeyword] at h
  | maximize =>
    cases e with
    | minimize => simp [keyword, minimizeKeyword, maximizeKeyword] at h
    | maximize => exact ⟨rfl, List.append_cancel_left h⟩

/-- A sum is read as one list of terms only. -/
theorem terms_eq_of_readTerms {s s' : Text} {ts ts' : List (Term Number)}
    (h : readTerms none s = .ok ts) (h' : readTerms none s' = .ok ts') (hs : s = s') :
    ts = ts' := by
  rw [hs, h'] at h
  exact (Except.ok.inj h).symm

theorem ObjectiveForm.text_injective : Function.Injective ObjectiveForm.text := by
  intro f g h
  have hkeyword (direction : Direction) (x : Text) :
      Text.Stops isBlank (keyword direction ++ x) :=
    (trimmed_keyword direction).stops_isBlank.append (keyword_ne_nil direction) x
  simp only [text, heading, List.append_assoc] at h
  obtain ⟨hbefore, h⟩ := Text.append_inj_of_stops f.before.2 g.before.2
    (hkeyword _ _) (hkeyword _ _) h
  obtain ⟨hdirection, h⟩ := keyword_append_inj h
  obtain ⟨htitle, hsum⟩ := Title.append_inj h
  have hterms := terms_eq_of_readTerms f.sum_reads g.sum_reads hsum
  exact ObjectiveForm.ext (Subtype.ext hbefore) hdirection htitle hsum hterms

/-- A literal does not begin with a minus or a blank, so it ends the sign before it, and blanks end
the literal. -/
theorem signedLiteral_append_inj {minus minus' : Option Blanks} {l l' : Literal}
    {after after' : Blanks}
    (h : minusText minus ++ (l.text ++ after.1) = minusText minus' ++ (l'.text ++ after'.1)) :
    minus = minus' ∧ l = l' ∧ after = after' := by
  have hblank (l : Literal) (x : Text) : Text.Stops isBlank (l.text ++ x) :=
    l.trimmed_text.stops_isBlank.append l.text_ne_nil x
  have hhead (l : Literal) (x : Text) : (l.text ++ x).head? ≠ some '-' := by
    rw [List.head?_append_of_ne_nil _ l.text_ne_nil]
    exact head?_literal_text l
  have hafter (blanks : Blanks) : Text.Stops Literal.isPart blanks.1 :=
    Text.stops_of_forall fun c hc => Literal.isPart_of_isBlank (blanks.2 c hc)
  obtain ⟨hminus, h⟩ := minusText_append_inj (hblank l _) (hblank l' _) (hhead l _) (hhead l' _) h
  obtain ⟨hliteral, hblanks⟩ := Literal.append_inj (hafter after) (hafter after') h
  exact ⟨hminus, hliteral, Subtype.ext hblanks⟩

theorem ConstraintForm.text_injective : Function.Injective ConstraintForm.text := by
  intro f g h
  have hsubject (x : Text) : Text.Stops isBlank (subjectKeyword ++ x) :=
    trimmed_subjectKeyword.stops_isBlank.append (by decide) x
  have hsumFree (f : ConstraintForm) : ∀ c ∈ f.sum, (!isOperatorChar c) = true := fun c hc => by
    simp [f.sum_free c hc]
  have hoperator (f : ConstraintForm) :
      Text.Stops isOperatorChar (f.gap.1 ++ (f.constantText ++ f.after.1)) := by
    rw [← List.append_assoc]
    exact f.stops_isOperatorChar.append (by simp [f.constantText_ne_nil]) f.after.1
  have hconstant (f : ConstraintForm) : Text.Stops isBlank (f.constantText ++ f.after.1) :=
    f.trimmed_constantText.stops_isBlank.append f.constantText_ne_nil f.after.1
  simp only [text, heading, comparison, List.append_assoc] at h
  obtain ⟨hbefore, h⟩ := Text.append_inj_of_stops f.before.2 g.before.2
    (hsubject _) (hsubject _) h
  obtain ⟨hgap, h⟩ := Text.append_inj_of_stops f.subjectGap.2.2 g.subjectGap.2.2
    (stops_isBlank_toKeyword _) (stops_isBlank_toKeyword _) (List.append_cancel_left h)
  obtain ⟨htitle, h⟩ := Title.append_inj (List.append_cancel_left h)
  obtain ⟨hsum, h⟩ := Text.append_inj_of_stops (hsumFree f) (hsumFree g)
    (f.stops_operator _) (g.stops_operator _) h
  obtain ⟨hoperator, h⟩ := Text.append_inj_of_stops f.operator_chars g.operator_chars
    (hoperator f) (hoperator g) h
  obtain ⟨hblanks, h⟩ := Text.append_inj_of_stops f.gap.2 g.gap.2 (hconstant f) (hconstant g) h
  simp only [constantText, List.append_assoc] at h
  obtain ⟨hminus, hliteral, hafter⟩ := signedLiteral_append_inj h
  have hterms := terms_eq_of_readTerms f.sum_reads g.sum_reads hsum
  exact ConstraintForm.ext (Subtype.ext hbefore) (Subtype.ext hgap) htitle hsum hterms hoperator
    (Subtype.ext hblanks) hminus hliteral hafter

/-! ## The readers -/

/-- **Each reader follows its grammar**: it accepts the texts of the forms and no others, reads what
the form means, and no text has two forms. The reading of constraints admits all operators, or the
strict ones only. -/
theorem readers_read_forms :
    ReadsForms readDeclaration DeclarationForm.text DeclarationForm.declared ∧
      ReadsForms readObjective ObjectiveForm.text ObjectiveForm.objective ∧
      ∀ strict : Bool, ReadsForms (readConstraint strict)
        (fun f : {f : ConstraintForm // f.Admitted strict} => f.1.text)
        (fun f => f.1.constraint) := by
  refine ⟨⟨fun s t => readDeclaration_eq_ok_iff, DeclarationForm.text_injective⟩,
    ⟨fun s o => readObjective_eq_ok_iff, ObjectiveForm.text_injective⟩, fun strict => ⟨?_, ?_⟩⟩
  · intro s c
    rw [readConstraint_eq_ok_iff]
    constructor
    · rintro ⟨f, hadmitted, htext, hconstraint⟩
      exact ⟨⟨f, hadmitted⟩, htext, hconstraint⟩
    · rintro ⟨⟨f, hadmitted⟩, htext, hconstraint⟩
      exact ⟨f, hadmitted, htext, hconstraint⟩
  · intro f g h
    exact Subtype.ext (ConstraintForm.text_injective h)

end Statement

end LinearProgram
