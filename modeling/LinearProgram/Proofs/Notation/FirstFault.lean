import LinearProgram.Proofs.Notation.Reading
import LinearProgram.Proofs.Number.Literal
import LinearProgram.Proofs.Sequence
import LinearProgram.Proofs.Text.Piece

/-!
# The first fault of a document

Reading stops at the first statement that cannot stand where it stands, and the fault tells which
one that is (`Document.first_fault`). Faults arise at many depths: in a term, in a coefficient, in
an operator, in a constant. Each of the readers is given the statement, or has its fault put into
it afterwards, so that what comes out lies in the statement (`Fault.LiesIn`): it carries the whole
of it, and a literal that it reports is a part of it.
-/

namespace LinearProgram

/-! ## Faults in statements -/

/-- A part of a statement that stands where a literal should: not empty, without blanks at its ends,
and no literal. -/
structure Misread (statement literal : Text) : Prop where
  ne_nil : literal ≠ []
  trimmed : Text.Trimmed literal
  part : literal <:+: statement
  not_literal : ¬IsLiteral literal

/-- The fault carries the statement, and a literal that it reports is misread in it. -/
structure Fault.LiesIn (statement : Text) (fault : Fault) : Prop where
  statement_eq : fault.statement = some statement
  literal : ∀ literal, fault.cause = .invalidLiteral literal → Misread statement literal

variable {statement s : Text} {fault : Fault}

/-- A fault that reports no literal lies in the statement that it carries. -/
theorem liesIn_of_no_literal {cause : Cause} (h : ∀ literal, cause ≠ .invalidLiteral literal) :
    Fault.LiesIn statement (cause.inStatement statement) :=
  ⟨rfl, fun literal hl => absurd hl (h literal)⟩

/-- A reader that refuses for want of a part gives a fault that lies in the statement. -/
theorem liesIn_of_incomplete {α : Type} {defect : Defect}
    (h : (.error (Cause.inStatement (.incomplete defect) statement) : Except Fault α) =
      .error fault) : fault.LiesIn statement := by
  obtain rfl : _ = fault := by simpa using h
  exact liesIn_of_no_literal (by simp)

theorem liesIn_of_misread {literal : Text} (h : Misread statement literal) :
    Fault.LiesIn statement (Cause.inStatement (.invalidLiteral literal) statement) :=
  ⟨rfl, fun other hl => by
    obtain rfl : literal = other := by simpa [Cause.inStatement] using hl
    exact h⟩

/-! ## Sums -/

theorem splitMinus_isInfix (s : Text) : (splitMinus s).2 <:+: s := by
  unfold splitMinus
  split
  · rename_i rest
    exact (Text.trim_isInfix rest).trans (List.suffix_cons '-' rest).isInfix
  · exact List.infix_rfl

theorem readCoefficient_liesIn (h : readCoefficient (some statement) s = .error fault)
    (hne : s ≠ []) (htrim : Text.Trimmed s) (hpart : s <:+: statement) :
    fault.LiesIn statement := by
  unfold readCoefficient at h
  split at h
  · simp at h
  · rename_i hnone
    obtain rfl : _ = fault := by simpa using h
    exact liesIn_of_misread ⟨hne, htrim, hpart, readLiteral?_eq_none_iff.1 hnone⟩

theorem splitFactor_liesIn (h : splitFactor statement s = .error fault)
    (hpart : s <:+: statement) : fault.LiesIn statement := by
  simp only [splitFactor] at h
  split at h
  · split at h
    · exact liesIn_of_incomplete h
    · rename_i hne
      split at h
      · simp at h
      · rename_i why hwhy
        obtain rfl : why = fault := by simpa using h
        have hpiece : Text.trim (s.takeWhile (· != '*')) <:+: s :=
          (Text.trim_isInfix _).trans (List.takeWhile_prefix _).isInfix
        exact readCoefficient_liesIn hwhy (by simpa using hne) (Text.trimmed_trim _)
          (hpiece.trans hpart)
  · simp at h

theorem readTerm_liesIn (h : readTerm (some statement) s = .error fault)
    (hpart : s <:+: statement) : fault.LiesIn statement := by
  simp only [readTerm, Option.getD_some] at h
  split at h
  · exact liesIn_of_incomplete h
  · split at h
    · rename_i why hwhy
      obtain rfl : why = fault := by simpa using h
      exact splitFactor_liesIn hwhy
        (((splitMinus_isInfix _).trans (Text.trim_isInfix s)).trans hpart)
    · split at h
      · simp at h
      · exact liesIn_of_incomplete h

theorem readTerms_liesIn (h : readTerms (some statement) s = .error fault)
    (hpart : s <:+: statement) : fault.LiesIn statement := by
  simp only [readTerms, Option.getD_some] at h
  split at h
  · exact liesIn_of_incomplete h
  · -- The fault is that of the first bad term.
    obtain ⟨before, piece, after, hsplit, -, hpiece⟩ := mapM_eq_error_iff.1 h
    have hmem : piece ∈ s.splitOn '+' := by simp [hsplit]
    exact readTerm_liesIn hpiece ((Text.infix_of_mem_splitOn hmem).trans hpart)

/-! ## Statements -/

namespace Statement

variable {name body rest : Text}

theorem suffix_of_named? (h : named? s = some (name, rest)) : rest <:+ s := by
  obtain ⟨middle, hmiddle, hname⟩ := Option.bind_eq_some_iff.1 h
  exact (Text.suffix_of_leadingName? hname).trans (Text.suffix_of_afterBlanks? hmiddle)

theorem suffix_of_titled? (h : titled? s = some (name, body)) : body <:+ s := by
  unfold titled? at h
  split at h
  · rename_i other rest hnamed
    split at h
    · rename_i after hcolon
      obtain ⟨rfl, rfl⟩ : other = name ∧ after = body := by simpa using h
      have hafter : after <:+ Text.trimStart rest := by
        rw [hcolon]
        exact List.suffix_cons ':' after
      exact (hafter.trans (Text.trimStart_suffix rest)).trans (suffix_of_named? hnamed)
    · simp at h
  · simp at h

theorem suffix_of_objectiveParts? {direction : Direction}
    (h : objectiveParts? s = some (direction, name, body)) : body <:+ s := by
  unfold objectiveParts? at h
  split at h
  · rename_i rest hrest
    obtain ⟨⟨other, after⟩, htitled, heq⟩ := Option.map_eq_some_iff.1 h
    obtain ⟨-, rfl, rfl⟩ : _ ∧ other = name ∧ after = body := by simpa using heq
    exact (suffix_of_titled? htitled).trans (Text.suffix_of_afterPrefix? hrest)
  · split at h
    · rename_i rest hrest
      obtain ⟨⟨other, after⟩, htitled, heq⟩ := Option.map_eq_some_iff.1 h
      obtain ⟨-, rfl, rfl⟩ : _ ∧ other = name ∧ after = body := by simpa using heq
      exact (suffix_of_titled? htitled).trans (Text.suffix_of_afterPrefix? hrest)
    · simp at h

theorem suffix_of_constraintParts? (h : constraintParts? s = some (name, body)) : body <:+ s := by
  obtain ⟨title, htitle, htitled⟩ := Option.bind_eq_some_iff.1 h
  obtain ⟨second, hsecond, hto⟩ := Option.bind_eq_some_iff.1 htitle
  obtain ⟨first, hfirst, hblanks⟩ := Option.bind_eq_some_iff.1 hsecond
  exact (((suffix_of_titled? htitled).trans (Text.suffix_of_afterPrefix? hto)).trans
    (Text.suffix_of_afterBlanks? hblanks)).trans (Text.suffix_of_afterPrefix? hfirst)

theorem readDeclaration_liesIn (h : readDeclaration s = .error fault) : fault.LiesIn s := by
  unfold readDeclaration at h
  split at h
  · simp at h
  · exact liesIn_of_incomplete h

theorem readObjective_liesIn (h : readObjective s = .error fault) : fault.LiesIn s := by
  unfold readObjective at h
  split at h
  · exact liesIn_of_incomplete h
  · rename_i direction name body hparts
    split at h
    · rename_i why hwhy
      obtain rfl : why = fault := by simpa using h
      exact readTerms_liesIn hwhy
        ((suffix_of_objectiveParts? hparts).isInfix.trans (Text.trim_isInfix s))
    · simp at h

/-- A constant that is refused is reported whole. With a minus in front it is no literal, whatever
follows the minus. -/
theorem readConstant_liesIn (h : readConstant statement s = .error fault) (hne : s ≠ [])
    (htrim : Text.Trimmed s) (hpart : s <:+: statement) : fault.LiesIn statement := by
  simp only [readConstant] at h
  split at h
  · simp at h
  · rename_i hnone
    obtain rfl : _ = fault := by simpa using h
    refine liesIn_of_misread ⟨hne, htrim, hpart, fun hliteral => ?_⟩
    obtain ⟨c, rest, rfl, hdigit⟩ := hliteral.exists_digit
    have hminus : c ≠ '-' := by
      rintro rfl
      simp [isDigit_minus] at hdigit
    have hsplit : splitMinus (c :: rest) = (false, c :: rest) := by
      unfold splitMinus
      split
      · rename_i heq
        exact absurd (List.cons.inj heq).1 hminus
      · rfl
    rw [hsplit] at hnone
    exact readLiteral?_eq_none_iff.1 hnone hliteral

/-- The sides of a comparison are parts of the body. -/
theorem ofBody_left_isInfix (body : Text) : (Comparison.ofBody body).left <:+: body :=
  (List.takeWhile_prefix _).isInfix

theorem ofBody_right_isInfix (body : Text) : (Comparison.ofBody body).right <:+: body :=
  (Text.trim_isInfix _).trans ((List.dropWhile_suffix _).trans (List.dropWhile_suffix _)).isInfix

theorem readComparison_liesIn {strict : Bool}
    (h : readComparison strict statement name body = .error fault) (hpart : body <:+: statement) :
    fault.LiesIn statement := by
  simp only [readComparison] at h
  split at h
  · exact liesIn_of_incomplete h
  split at h
  · exact liesIn_of_incomplete h
  split at h
  · exact liesIn_of_incomplete h
  rename_i hconstant
  split at h
  · exact liesIn_of_incomplete h
  split at h
  · -- The operator's own fault carries no statement; it is put into this one.
    rename_i why hwhy
    obtain rfl : _ = fault := by simpa using h
    refine liesIn_of_no_literal fun literal => ?_
    unfold readOperator at hwhy
    split at hwhy
    · obtain rfl : _ = why := by simpa using hwhy
      simp
    · simp at hwhy
  split at h
  · rename_i why hwhy
    obtain rfl : why = fault := by simpa using h
    exact readConstant_liesIn hwhy (by simpa using hconstant) (Text.trimmed_trim _)
      ((ofBody_right_isInfix body).trans hpart)
  split at h
  · rename_i why hwhy
    obtain rfl : why = fault := by simpa using h
    exact readTerms_liesIn hwhy ((ofBody_left_isInfix body).trans hpart)
  · simp at h

theorem readConstraint_liesIn {strict : Bool} (h : readConstraint strict s = .error fault) :
    fault.LiesIn s := by
  unfold readConstraint at h
  split at h
  · exact liesIn_of_incomplete h
  · rename_i name body hparts
    exact readComparison_liesIn h
      ((suffix_of_constraintParts? hparts).isInfix.trans (Text.trim_isInfix s))

/-- **Whatever refuses a statement, the fault lies in it.** -/
theorem Refused.liesIn {policy : Policy} (h : Refused policy s fault) : fault.LiesIn s := by
  cases h with
  | kind _ => exact liesIn_of_no_literal (by simp)
  | declaration _ hs => exact readDeclaration_liesIn hs
  | objective _ hs => exact readObjective_liesIn hs
  | constraint _ hs => exact readConstraint_liesIn hs

end Statement

/-! ## Documents -/

namespace Document

/-- **The first fault.** Either every statement can be read and none is an objective, or the fault
comes from the first statement that cannot stand where it stands: it is refused by itself, or it is
a second objective where that is refused. -/
theorem first_fault {policy : Policy} {text : Text} (h : read policy text = .error fault) :
    (fault = ⟨.noObjective, none⟩ ∧ (∀ s ∈ statements text, Statement.Readable policy s) ∧
      ofKind .objective (statements text) = []) ∨
    ∃ before s after, statements text = before ++ s :: after ∧
      (∀ r ∈ before, Statement.Readable policy r) ∧
      (policy.repeatedObjective = .refused → (ofKind .objective before).length ≤ 1) ∧
      (Statement.Refused policy s fault ∨
        policy.repeatedObjective = .refused ∧ Statement.kind? s = some .objective ∧
          Statement.Readable policy s ∧ (ofKind .objective before).length = 1 ∧
          fault = Cause.repeatedObjective.inStatement s) ∧
      fault.statement = some s ∧
      ∀ literal, fault.cause = .invalidLiteral literal → Misread s literal := by
  rw [read] at h
  cases hrun : Draft.extendAll policy {} (statements text) with
  | error why =>
    obtain rfl : why = fault := by simpa [hrun] using h
    obtain ⟨before, s, after, last, hsplit, hlast, hstuck⟩ :=
      (Draft.gathers_nil policy).exists_stuck hrun
    rw [List.nil_append] at hlast
    refine Or.inr ⟨before, s, after, hsplit, hlast.readable, hlast.once, ?_⟩
    cases hstuck with
    | refused hs => exact ⟨Or.inl hs, hs.liesIn.statement_eq, hs.liesIn.literal⟩
    | repeated hk hs hp hsome =>
      have hlies : (Cause.repeatedObjective.inStatement s).LiesIn s :=
        liesIn_of_no_literal (by simp)
      have hne : ofKind .objective before ≠ [] := fun hnil => by
        simp [hlast.objective_eq_none_iff.2 hnil] at hsome
      have hpos := List.length_pos_iff.2 hne
      have hle := hlast.once hp
      exact ⟨Or.inr ⟨hp, hk, hs, by omega, rfl⟩, hlies.statement_eq, hlies.literal⟩
  | ok draft =>
    have hdraft := (Draft.gathers_nil policy).extendAll hrun
    rw [List.nil_append] at hdraft
    simp only [hrun, Draft.finish] at h
    cases ho : draft.objective with
    | some objective => simp [ho] at h
    | none =>
      obtain rfl : _ = fault := by simpa [ho] using h
      exact Or.inl ⟨rfl, hdraft.readable, hdraft.objective_eq_none_iff.1 ho⟩

/-- A coefficient that is no number, before a statement of no kind and a second objective. -/
def misreadCoefficient : Text :=
  "var x; minimize f: x; subject to c: x + -2..5 * y <= 4; x <= 3; maximize g: x".toList

theorem first_fault_of_misread_coefficient :
    read ⟨.refused, false⟩ misreadCoefficient = .error
      ⟨.invalidLiteral "2..5".toList, some "subject to c: x + -2..5 * y <= 4".toList⟩ ∧
    ∃ before s after, statements misreadCoefficient = before ++ s :: after ∧
      (∀ r ∈ before, Statement.Readable ⟨.refused, false⟩ r) ∧
      s = "subject to c: x + -2..5 * y <= 4".toList ∧ Misread s "2..5".toList := by
  have hread : read ⟨.refused, false⟩ misreadCoefficient = .error
      ⟨.invalidLiteral "2..5".toList, some "subject to c: x + -2..5 * y <= 4".toList⟩ := by
    decide +kernel
  refine ⟨hread, ?_⟩
  obtain ⟨hfault, -⟩ | ⟨before, s, after, hsplit, hbefore, -, -, hs, hliteral⟩ := first_fault hread
  · simp at hfault
  · exact ⟨before, s, after, hsplit, hbefore, (Option.some.inj hs).symm, hliteral _ rfl⟩

end Document

end LinearProgram
