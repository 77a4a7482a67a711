import Mathlib.Data.List.DropRight
import Mathlib.Tactic.Ring
import LinearProgram.Number.Notation

/-!
# Digits of numbers

A number is written with the ten usual digits, and its digits denote it (`digitsValue_toDigits`).
Zeros at the end stand for powers of ten (`toDigits_mul_pow`), zeros at the beginning for nothing.
-/

namespace LinearProgram

/-! ## Values of digits -/

theorem digitValue?_of_isDigit {c : Char} (h : c.isDigit = true) :
    digitValue? c = some (c.toNat - 48) := by
  have hrange : 48 ≤ c.toNat ∧ c.toNat ≤ 57 := by
    simpa [Char.isDigit, UInt32.le_iff_toNat_le] using h
  have hfind : digitZeros.find? (fun start => start ≤ c.toNat && c.toNat ≤ start + 9) =
      some 48 := List.find?_cons_of_pos (by simpa using hrange)
  rw [digitValue?, hfind]
  rfl

theorem isDigit_of_char_isDigit {c : Char} (h : c.isDigit = true) : isDigit c = true :=
  isDigit_iff.2 ⟨_, digitValue?_of_isDigit h⟩

/-- Digits before others count by the power of ten that these take up. -/
theorem digitsValue_append (s t : Text) :
    digitsValue (s ++ t) = digitsValue s * 10 ^ t.length + digitsValue t := by
  induction t using List.reverseRecOn with
  | nil => simp [digitsValue]
  | append_singleton t c ih =>
    have hconcat (s : Text) : digitsValue (s ++ [c]) =
        10 * digitsValue s + (digitValue? c).getD 0 := by
      simp [digitsValue, List.foldl_append]
    rw [← List.append_assoc, hconcat, hconcat, ih, List.length_append, List.length_singleton,
      pow_succ]
    ring

theorem digitsValue_zeros (k : Nat) : digitsValue (List.replicate k '0') = 0 := by
  induction k with
  | zero => rfl
  | succ k ih =>
    have hzero : digitsValue ['0'] = 0 := by decide
    rw [List.replicate_succ, ← List.singleton_append, digitsValue_append, ih, hzero, zero_mul]

theorem digitsValue_zeros_append (k : Nat) (s : Text) :
    digitsValue (List.replicate k '0' ++ s) = digitsValue s := by
  rw [digitsValue_append, digitsValue_zeros, zero_mul, zero_add]

theorem digitsValue_append_zeros (s : Text) (k : Nat) :
    digitsValue (s ++ List.replicate k '0') = digitsValue s * 10 ^ k := by
  rw [digitsValue_append, digitsValue_zeros, List.length_replicate, add_zero]

/-! ## Digits of values -/

theorem char_isDigit_of_mem_toDigits {n : Nat} {c : Char} (h : c ∈ Nat.toDigits 10 n) :
    c.isDigit = true :=
  Nat.isDigit_of_mem_toDigits (by decide) le_rfl h

/-- **The digits of a number denote it.** -/
theorem digitsValue_toDigits (n : Nat) : digitsValue (Nat.toDigits 10 n) = n := by
  have hdigits {s : Text} (h : ∀ c ∈ s, c.isDigit = true) :
      digitsValue s = Nat.ofDigitChars 10 s 0 := by
    rw [Nat.ofDigitChars_eq_foldl, digitsValue]
    refine List.foldl_ext _ _ 0 fun value c hc => ?_
    rw [digitValue?_of_isDigit (h c hc)]
    rfl
  rw [hdigits fun c => char_isDigit_of_mem_toDigits, Nat.ofDigitChars_ten_toDigits]

/-- Zeros at the end stand for powers of ten. -/
theorem toDigits_mul_pow {n : Nat} (hn : 0 < n) (k : Nat) :
    Nat.toDigits 10 (n * 10 ^ k) = Nat.toDigits 10 n ++ List.replicate k '0' := by
  induction k with
  | zero => simp
  | succ k ih =>
    have hpos : 0 < n * 10 ^ k := Nat.mul_pos hn (Nat.pow_pos (by decide))
    have hlast := Nat.toDigits_append_toDigits (b := 10) (d := 0) (by decide) hpos (by decide)
    rw [Nat.toDigits_zero, ih, List.append_assoc, ← List.replicate_succ'] at hlast
    rw [hlast, pow_succ, add_zero]
    ring_nf

/-! ## Zeros at the end -/

namespace NumberFormat

theorem significantDigits_eq (d : Decimal) :
    significantDigits d = (Nat.toDigits 10 d.digits).rdropWhile (· = '0') := rfl

/-- Only zeros are left out. -/
theorem exists_toDigits_eq (d : Decimal) : ∃ k,
    Nat.toDigits 10 d.digits = significantDigits d ++ List.replicate k '0' := by
  have hzeros := fun c => List.mem_rtakeWhile_imp (p := (· = '0')) (l := Nat.toDigits 10 d.digits)
    (x := c)
  refine ⟨((Nat.toDigits 10 d.digits).rtakeWhile (· = '0')).length, ?_⟩
  have heq : (Nat.toDigits 10 d.digits).rtakeWhile (· = '0') =
      List.replicate ((Nat.toDigits 10 d.digits).rtakeWhile (· = '0')).length '0' :=
    List.eq_replicate_of_mem fun c hc => by simpa using hzeros c hc
  rw [← heq, significantDigits_eq, List.rdropWhile_append_rtakeWhile]

theorem char_isDigit_of_mem_significantDigits {d : Decimal} {c : Char}
    (h : c ∈ significantDigits d) : c.isDigit = true :=
  char_isDigit_of_mem_toDigits ((List.rdropWhile_prefix _ _).subset h)

/-- Powers of ten do not change the digits. -/
theorem significantDigits_mul_pow {n : Nat} (hn : 0 < n) (k : Nat) (e e' : Int) :
    significantDigits ⟨n * 10 ^ k, e⟩ = significantDigits ⟨n, e'⟩ := by
  rw [significantDigits, significantDigits, toDigits_mul_pow hn, List.reverse_append,
    List.reverse_replicate,
    List.dropWhile_append_of_pos fun c hc => by simp [List.eq_of_mem_replicate hc]]

end NumberFormat

end LinearProgram
