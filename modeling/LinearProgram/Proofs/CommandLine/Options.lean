import Mathlib.Data.List.Basic
import LinearProgram.CommandLine.Options

/-!
# What the options say

An option without a value is in force exactly when it is among the arguments (`Options.flags_scan`).
It never stands there as a value: arguments that begin with two hyphens are none.
-/

namespace LinearProgram

namespace Options

theorem ne_of_isOption {argument option : Text} (h : isOption argument = false)
    (hoption : isOption option = true) : option ≠ argument := by
  rintro rfl
  rw [h] at hoption
  exact absurd hoption (by decide)

/-- What is in force after more arguments. -/
theorem flags_scanFrom {draft final : Draft} {arguments : List Text}
    (h : scanFrom draft arguments = .ok final) :
    (final.solve = true ↔ draft.solve = true ∨ solveOption ∈ arguments) ∧
      (final.strict = true ↔ draft.strict = true ∨ strictOption ∈ arguments) := by
  have hsolve : isOption solveOption = true := by decide
  have hstrict : isOption strictOption = true := by decide
  fun_induction scanFrom draft arguments with
  | case1 draft =>
    obtain rfl : draft = final := by simpa using h
    simp
  | case2 draft rest ih =>
    have hne : strictOption ≠ solveOption := by decide
    simpa [hne] using ih h
  | case3 draft rest _ ih =>
    have hne : solveOption ≠ strictOption := by decide
    simpa [hne] using ih h
  | case4 draft rest _ _ ih =>
    have hne : solveOption ≠ verboseOption ∧ strictOption ≠ verboseOption := by decide
    simpa [hne] using ih h
  | case5 => simp at h
  | case6 => simp at h
  | case7 draft value rest hvalue _ _ _ ih =>
    have hne : solveOption ≠ methodOption ∧ strictOption ≠ methodOption := by decide
    have hvalue : isOption value = false := by simpa using hvalue
    simpa [hne, ne_of_isOption hvalue hsolve, ne_of_isOption hvalue hstrict] using ih h
  | case8 => simp at h
  | case9 draft argument rest _ _ _ _ hargument ih =>
    have hargument : isOption argument = false := by simpa using hargument
    simpa [ne_of_isOption hargument hsolve, ne_of_isOption hargument hstrict] using ih h

/-- **Options without a value** are in force when they are given. -/
theorem flags_scan {options : Options} {arguments : List Text}
    (h : scan arguments = .ok options) :
    (options.solve = true ↔ solveOption ∈ arguments) ∧
      (options.strict = true ↔ strictOption ∈ arguments) := by
  rw [scan] at h
  cases hdraft : scanFrom {} arguments with
  | error fault => simp [hdraft] at h
  | ok draft =>
    have hflags := flags_scanFrom hdraft
    rw [hdraft] at h
    cases hpath : draft.path with
    | none => simp [hpath] at h
    | some path =>
      simp only [hpath, Except.ok.injEq] at h
      subst h
      simpa using hflags

theorem solve_eq_false_iff {options : Options} {arguments : List Text}
    (h : scan arguments = .ok options) : options.solve = false ↔ solveOption ∉ arguments := by
  rw [← (flags_scan h).1, Bool.not_eq_true]

end Options

end LinearProgram
