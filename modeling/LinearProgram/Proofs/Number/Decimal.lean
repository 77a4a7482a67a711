import LinearProgram.Proofs.Number.Digits
import LinearProgram.Proofs.Number.Nearest

/-!
# Decimals

**Rounding to digits.** `Decimal.Rounds` says of a decimal that it is a number rounded to so many
significant digits, and `significant` makes one (`significant_rounds`). A number that is near enough
to a decimal of so many digits is rounded to it (`toRat_significant_of_near`): this does not fail at
a power of ten, where the grid below is ten times as fine.

**Writing and reading.** The digits of a decimal without the zeros at their end, and its order,
depend on its value alone (`significantDigits_eq_of_toRat_eq`, `order_eq_orderOf`). What a decimal
is read as is the number nearest to its value, also where that is not multiplied out
(`toNumber_eq_ofMagnitude`).
-/

namespace LinearProgram

namespace Decimal

variable {d d' : Decimal} {v : Rat} {count : Nat}

theorem ten_zpow_pos (e : Int) : (0 : Rat) < (10 : Rat) ^ e := zpow_pos (by norm_num) e

theorem toRat_pos (h : d.digits ≠ 0) : 0 < d.toRat :=
  mul_pos (by exact_mod_cast Nat.pos_of_ne_zero h) (ten_zpow_pos _)

theorem digits_ne_zero (h : 0 < d.toRat) : d.digits ≠ 0 := by
  intro hzero
  simp [toRat, hzero] at h

/-- Orders of magnitude for the base ten. -/
theorem orderOf_ten_eq_iff (hv : 0 < v) {e : Int} :
    orderOf 10 v = e ↔ (10 : Rat) ^ e ≤ v ∧ v < (10 : Rat) ^ (e + 1) := by
  have := orderOf_eq_iff (show 1 < 10 by decide) hv (e := e)
  exact_mod_cast this

/-! ## The order of a decimal -/

/-- **The leading digit** of a decimal stands for the order of its value. -/
theorem order_eq_orderOf (h : d.digits ≠ 0) : d.order = orderOf 10 d.toRat := by
  obtain ⟨hlow, hhigh⟩ := zpow_digitCount_bounds (show 1 < 10 by decide) (Nat.pos_of_ne_zero h)
  have hshift (e : Int) : (10 : Rat) ^ (d.exponent + e) =
      ((10 : Nat) : Rat) ^ e * (10 : Rat) ^ d.exponent := by
    rw [zpow_add₀ (by norm_num), mul_comm]
    norm_num
  refine ((orderOf_ten_eq_iff (toRat_pos h)).2 ⟨?_, ?_⟩).symm
  · rw [order, add_sub_assoc, hshift]
    exact mul_le_mul_of_nonneg_right hlow (ten_zpow_pos _).le
  · rw [order, sub_add_cancel, hshift]
    exact mul_lt_mul_of_pos_right hhigh (ten_zpow_pos _)

theorem le_order_iff (h : d.digits ≠ 0) {e : Int} : e ≤ d.order ↔ (10 : Rat) ^ e ≤ d.toRat := by
  have := le_orderOf_iff (show 1 < 10 by decide) (toRat_pos h) (e := e)
  rw [order_eq_orderOf h]
  exact_mod_cast this

theorem order_lt_iff (h : d.digits ≠ 0) {e : Int} : d.order < e ↔ d.toRat < (10 : Rat) ^ e := by
  rw [← not_le, le_order_iff h, not_le]

/-! ## Decimals of one value -/

theorem toRat_mul_pow (n k : Nat) (e : Int) : (⟨n * 10 ^ k, e⟩ : Decimal).toRat =
    (⟨n, e + k⟩ : Decimal).toRat := by
  rw [toRat, toRat, zpow_add₀ (by norm_num), zpow_natCast]
  push_cast
  ring

/-- Two decimals of one value differ by zeros at the end. -/
theorem exists_eq_mul_pow (he : d.exponent ≤ d'.exponent) (h : d.toRat = d'.toRat) :
    ∃ k, d.digits = d'.digits * 10 ^ k := by
  obtain ⟨k, hk⟩ := Int.eq_ofNat_of_zero_le (sub_nonneg.2 he)
  refine ⟨k, ?_⟩
  have hexponent : d'.exponent = d.exponent + k := by omega
  have hvalue : (d.digits : Rat) = ((d'.digits * 10 ^ k : Nat) : Rat) := by
    rw [show d'.toRat = (⟨d'.digits * 10 ^ k, d.exponent⟩ : Decimal).toRat by
      rw [toRat_mul_pow, ← hexponent]] at h
    exact mul_right_cancel₀ (ten_zpow_pos d.exponent).ne' h
  exact_mod_cast hvalue

/-- **The digits** that are written depend on the value alone. -/
theorem significantDigits_eq_of_toRat_eq (hne : d.digits ≠ 0) (h : d.toRat = d'.toRat) :
    NumberFormat.significantDigits d = NumberFormat.significantDigits d' := by
  have hne' : d'.digits ≠ 0 := digits_ne_zero (h ▸ toRat_pos hne)
  -- The decimal with the lesser exponent has more zeros.
  have hcase {d d' : Decimal} (hne : d'.digits ≠ 0) (he : d.exponent ≤ d'.exponent)
      (h : d.toRat = d'.toRat) :
      NumberFormat.significantDigits d = NumberFormat.significantDigits d' := by
    obtain ⟨k, hk⟩ := exists_eq_mul_pow he h
    obtain ⟨digits, exponent⟩ := d
    obtain rfl : digits = d'.digits * 10 ^ k := hk
    exact NumberFormat.significantDigits_mul_pow (Nat.pos_of_ne_zero hne) k _ _
  rcases le_total d.exponent d'.exponent with he | he
  · exact hcase hne' he h
  · exact (hcase hne he h.symm).symm

/-- The value of the digits that are written, the first of which stands for the order. -/
theorem toRat_eq_significantDigits (d : Decimal) :
    d.toRat = (digitsValue (NumberFormat.significantDigits d) : Rat) *
      (10 : Rat) ^ (d.order + 1 - (NumberFormat.significantDigits d).length) := by
  obtain ⟨k, hk⟩ := NumberFormat.exists_toDigits_eq d
  have hvalue : d.digits = digitsValue (NumberFormat.significantDigits d) * 10 ^ k := by
    rw [← digitsValue_append_zeros, ← hk, digitsValue_toDigits]
  have horder : d.order + 1 - (NumberFormat.significantDigits d).length = d.exponent + k := by
    have hcount : digitCount 10 d.digits = (NumberFormat.significantDigits d).length + k := by
      rw [digitCount, hk, List.length_append, List.length_replicate]
    rw [order, hcount]
    push_cast
    ring
  rw [horder]
  calc d.toRat = (⟨digitsValue (NumberFormat.significantDigits d) * 10 ^ k, d.exponent⟩ :
        Decimal).toRat := by rw [← hvalue]
    _ = _ := toRat_mul_pow _ _ _

theorem significantDigits_ne_nil (h : d.digits ≠ 0) : NumberFormat.significantDigits d ≠ [] := by
  intro hnil
  have := toRat_pos h
  rw [toRat_eq_significantDigits, hnil] at this
  simp [digitsValue] at this

/-! ## Reading -/

theorem two_zpow_le_ten_zpow {e : Int} (h : 0 ≤ e) : (2 : Rat) ^ (3 * e) ≤ (10 : Rat) ^ e := by
  rw [zpow_mul]
  exact zpow_le_zpow_left₀ h (by norm_num) (by norm_num)

theorem ten_zpow_le_two_zpow {e : Int} (h : e ≤ 0) : (10 : Rat) ^ e ≤ (2 : Rat) ^ (3 * e) := by
  have hinv := inv_anti₀ (zpow_pos two_pos _) (two_zpow_le_ten_zpow (neg_nonneg.2 h))
  rwa [← zpow_neg, ← zpow_neg, neg_neg, mul_neg, neg_neg] at hinv

/-- **A decimal is read** as the number nearest to its value. -/
theorem toNumber_eq_ofMagnitude (negative : Bool) (d : Decimal) :
    d.toNumber negative = .ofMagnitude negative d.toRat := by
  rw [toNumber]
  split_ifs with hsmall hgreat
  · rcases Bool.or_eq_true_iff.1 hsmall with hzero | horder
    · have hvalue : d.toRat = 0 := by simp [toRat, of_decide_eq_true hzero]
      rw [hvalue]
      rfl
    · by_cases hzero : d.digits = 0
      · have hvalue : d.toRat = 0 := by simp [toRat, hzero]
        rw [hvalue]
        rfl
      · have hlt : d.toRat < (2 : Rat) ^ (-1075 : Int) := by
          calc d.toRat < (10 : Rat) ^ (-400 : Int) :=
                (order_lt_iff hzero).1 (of_decide_eq_true horder)
            _ ≤ (2 : Rat) ^ (3 * (-400 : Int)) := ten_zpow_le_two_zpow (by decide)
            _ ≤ (2 : Rat) ^ (-1075 : Int) := zpow_le_zpow_right₀ one_le_two (by decide)
        rw [Number.ofMagnitude, Magnitude.nearest?_eq_zero (toRat_pos hzero) hlt]
  · have hne : d.digits ≠ 0 := by
      rintro hzero
      simp [hzero] at hsmall
    have hle : (2 : Rat) ^ (1024 : Int) ≤ d.toRat := by
      calc (2 : Rat) ^ (1024 : Int) ≤ (2 : Rat) ^ (3 * (401 : Int)) :=
            zpow_le_zpow_right₀ one_le_two (by decide)
        _ ≤ (10 : Rat) ^ (401 : Int) := two_zpow_le_ten_zpow (by decide)
        _ ≤ d.toRat := (le_order_iff hne).1 hgreat
    rw [Number.ofMagnitude, Magnitude.nearest?_eq_none hle]
  · rfl

/-! ## Rounding to digits -/

/-- The decimal is the number rounded to `count` significant digits: its unit is that of the last
digit of the number, no multiple of the unit is nearer to the number, and of two that are equally
near this one is even. -/
structure Rounds (count : Nat) (v : Rat) (d : Decimal) : Prop where
  unit : (10 : Rat) ^ (d.exponent + count - 1) ≤ v ∧ v < (10 : Rat) ^ (d.exponent + count)
  nearest : ∀ n : Nat, |d.toRat - v| ≤ |(n : Rat) * (10 : Rat) ^ d.exponent - v|
  even : ∀ n : Nat, n ≠ d.digits →
    |(n : Rat) * (10 : Rat) ^ d.exponent - v| = |d.toRat - v| → d.digits % 2 = 0

theorem cast_digits_significant (count : Nat) (hv : 0 < v) :
    ((significant count v).digits : Int) = nearestEven (v / (10 : Rat) ^ lastPlace count v) := by
  refine Int.toNat_of_nonneg (le_nearestEven ?_)
  exact_mod_cast (div_pos hv (ten_zpow_pos _)).le

theorem toRat_significant (count : Nat) (hv : 0 < v) : (significant count v).toRat =
    (nearestEven (v / (10 : Rat) ^ lastPlace count v) : Rat) * (10 : Rat) ^ lastPlace count v := by
  rw [toRat, ← cast_digits_significant count hv]
  rfl

theorem lastPlace_add (count : Nat) (v : Rat) : lastPlace count v + count = orderOf 10 v + 1 := by
  rw [lastPlace]
  omega

theorem lastPlace_eq (hv : 0 < v) {p : Int} (hlow : (10 : Rat) ^ (p + count - 1) ≤ v)
    (hhigh : v < (10 : Rat) ^ (p + count)) : lastPlace count v = p := by
  have : orderOf 10 v = p + count - 1 :=
    (orderOf_ten_eq_iff hv).2 ⟨hlow, by rwa [sub_add_cancel]⟩
  rw [lastPlace, this]
  ring

theorem unit_significant (count : Nat) (hv : 0 < v) :
    (10 : Rat) ^ (lastPlace count v + count - 1) ≤ v ∧
      v < (10 : Rat) ^ (lastPlace count v + count) := by
  rw [lastPlace_add, add_sub_cancel_right]
  exact (orderOf_ten_eq_iff hv).1 rfl

/-- **A number is rounded** to so many digits. -/
theorem significant_rounds (count : Nat) (hv : 0 < v) : (significant count v).Rounds count v := by
  have hunit : (significant count v).exponent = lastPlace count v := rfl
  refine ⟨unit_significant count hv, fun n => ?_, fun n hne heq => ?_⟩
  · rw [toRat_significant count hv, hunit]
    exact abs_nearestEven_mul_sub_le_abs_sub v (ten_zpow_pos _) n
  · rw [toRat_significant count hv, hunit, abs_mul_sub _ _ (ten_zpow_pos _),
      abs_mul_sub _ _ (ten_zpow_pos _)] at heq
    have hother : (n : Int) ≠ nearestEven (v / (10 : Rat) ^ lastPlace count v) := by
      rw [← cast_digits_significant count hv]
      exact_mod_cast hne
    have heven := even_nearestEven_of_tie hother
      (by exact_mod_cast mul_right_cancel₀ (ten_zpow_pos _).ne' heq)
    rw [← cast_digits_significant count hv] at heven
    exact_mod_cast heven

/-- There is only one decimal that a number is rounded to. -/
theorem Rounds.eq_significant (hv : 0 < v) (h : d.Rounds count v) : d = significant count v := by
  have hunit := ten_zpow_pos d.exponent
  have hplace : lastPlace count v = d.exponent := lastPlace_eq hv h.unit.1 h.unit.2
  have hdigits := cast_digits_significant count hv
  rw [hplace] at hdigits
  have hdistance (n : Nat) : |(n : Rat) * (10 : Rat) ^ d.exponent - v| =
      |((n : Int) : Rat) - v / (10 : Rat) ^ d.exponent| * (10 : Rat) ^ d.exponent := by
    rw [Int.cast_natCast]
    exact abs_mul_sub _ _ hunit
  have hnear : |((d.digits : Int) : Rat) - v / (10 : Rat) ^ d.exponent| ≤
      |(nearestEven (v / (10 : Rat) ^ d.exponent) : Rat) - v / (10 : Rat) ^ d.exponent| := by
    have := h.nearest (significant count v).digits
    rw [toRat, hdistance, hdistance, hdigits] at this
    exact le_of_mul_le_mul_right this hunit
  have heq : (d.digits : Int) = nearestEven (v / (10 : Rat) ^ d.exponent) := by
    refine eq_nearestEven hnear fun hne => ?_
    have htie := le_antisymm hnear (abs_nearestEven_sub_le_abs_sub _ _)
    have heven := h.even (significant count v).digits (by omega)
      (by rw [toRat, hdistance, hdistance, hdigits, htie])
    omega
  have hdigits : d.digits = (significant count v).digits := by omega
  have hexponent : d.exponent = (significant count v).exponent := hplace.symm
  cases d
  cases hsignificant : significant count v
  simp_all

/-- It has so many digits then, or is the next power of ten. -/
theorem digits_significant (hcount : 0 < count) (hv : 0 < v) :
    10 ^ (count - 1) ≤ (significant count v).digits ∧ (significant count v).digits ≤ 10 ^ count := by
  obtain ⟨hlow, hhigh⟩ := unit_significant count hv
  have hdigits := cast_digits_significant count hv
  have hunit := ten_zpow_pos (lastPlace count v)
  have hpower (k : Nat) : (((10 ^ k : Nat) : Int) : Rat) * (10 : Rat) ^ lastPlace count v =
      (10 : Rat) ^ (lastPlace count v + k) := by
    rw [zpow_add₀ (by norm_num), zpow_natCast]
    push_cast
    ring
  constructor
  · have hle : ((10 ^ (count - 1) : Nat) : Int) ≤
        nearestEven (v / (10 : Rat) ^ lastPlace count v) := by
      refine le_nearestEven ((le_div_iff₀ hunit).2 ?_)
      rw [hpower, Nat.cast_sub hcount, Nat.cast_one, ← add_sub_assoc]
      exact hlow
    omega
  · have hle : nearestEven (v / (10 : Rat) ^ lastPlace count v) ≤ ((10 ^ count : Nat) : Int) := by
      refine nearestEven_le ((div_le_iff₀ hunit).2 ?_)
      rw [hpower]
      exact hhigh.le
    omega

/-- Rounded to so many digits, a number has the value of a decimal that has so many. -/
theorem exists_toRat_significant (hcount : 0 < count) (hv : 0 < v) :
    ∃ (n : Nat) (p : Int), 10 ^ (count - 1) ≤ n ∧ n < 10 ^ count ∧
      (significant count v).toRat = (⟨n, p⟩ : Decimal).toRat := by
  obtain ⟨hlow, hhigh⟩ := digits_significant hcount hv
  rcases hhigh.lt_or_eq with hlt | heq
  · exact ⟨_, _, hlow, hlt, rfl⟩
  · -- The next power of ten has one digit that is no zero.
    have hcarry : 10 ^ count = 10 ^ (count - 1) * 10 ^ 1 := by
      rw [← pow_add, Nat.sub_add_cancel hcount]
    refine ⟨10 ^ (count - 1), (significant count v).exponent + 1, le_rfl,
      Nat.pow_lt_pow_right (by decide) (by omega), ?_⟩
    calc (significant count v).toRat
        = (⟨10 ^ (count - 1) * 10 ^ 1, (significant count v).exponent⟩ : Decimal).toRat := by
          rw [← hcarry, ← heq]
      _ = _ := toRat_mul_pow _ 1 _

/-! ### Numbers near a decimal -/

/-- What is less than half a unit away from a multiple of the unit is rounded to it. -/
theorem toRat_significant_of_lastPlace (hv : 0 < v) {n : Nat} {p : Int}
    (hplace : lastPlace count v = p) (h : |v - (n : Rat) * (10 : Rat) ^ p| < (10 : Rat) ^ p / 2) :
    (significant count v).toRat = n * (10 : Rat) ^ p := by
  have hunit := ten_zpow_pos p
  have hnear : |v / (10 : Rat) ^ p - ((n : Int) : Rat)| < 1 / 2 := by
    rw [abs_sub_comm, abs_mul_sub _ _ hunit] at h
    rw [abs_sub_comm, Int.cast_natCast]
    exact lt_of_mul_lt_mul_right (by linarith) hunit.le
  rw [toRat_significant count hv, hplace, nearestEven_eq_of_abs_sub_lt hnear, Int.cast_natCast]

/-- What is just below a power of ten is rounded to it, although the unit is a tenth there. -/
theorem toRat_significant_of_near_power (hcount : 0 < count) {p : Int}
    (hlt : v < (10 : Rat) ^ (p + count - 1))
    (h : |v - (10 : Rat) ^ (p + count - 1)| < (10 : Rat) ^ p / 20) :
    (significant count v).toRat = (10 : Rat) ^ (p + count - 1) := by
  have hunit : (10 : Rat) ^ p ≤ (10 : Rat) ^ (p + count - 1) :=
    zpow_le_zpow_right₀ (by norm_num) (by omega)
  have htenth (e : Int) : (10 : Rat) ^ (e - 1) * 10 = (10 : Rat) ^ e := by
    rw [← zpow_add_one₀ (by norm_num), sub_add_cancel]
  have hlow : (10 : Rat) ^ (p - 1 + count - 1) ≤ v := by
    have := htenth (p + count - 1)
    rw [show p - 1 + (count : Int) - 1 = p + count - 1 - 1 by ring]
    linarith [(abs_lt.1 h).1, ten_zpow_pos p]
  have hplace : lastPlace count v = p - 1 :=
    lastPlace_eq ((ten_zpow_pos _).trans_le hlow) hlow (by rwa [sub_add_eq_add_sub])
  have hvalue : (10 : Rat) ^ (p + count - 1) = ((10 ^ count : Nat) : Rat) * (10 : Rat) ^ (p - 1) := by
    rw [Nat.cast_pow, Nat.cast_ofNat, ← zpow_natCast, ← zpow_add₀ (by norm_num)]
    congr 1
    ring
  rw [hvalue] at h ⊢
  exact toRat_significant_of_lastPlace ((ten_zpow_pos _).trans_le hlow) hplace
    (by linarith [htenth p])

/-- **A number near a decimal** of so many digits is rounded to it. -/
theorem toRat_significant_of_near (hcount : 0 < count) {n : Nat} {p : Int}
    (hlow : 10 ^ (count - 1) ≤ n) (hhigh : n < 10 ^ count)
    (h : |v - (n : Rat) * (10 : Rat) ^ p| < (10 : Rat) ^ p / 20) :
    (significant count v).toRat = n * (10 : Rat) ^ p := by
  have hunit := ten_zpow_pos p
  obtain ⟨habove, hbelow⟩ := abs_lt.1 h
  have hfirst : (10 : Rat) ^ (p + count - 1) = ((10 ^ (count - 1) : Nat) : Rat) * (10 : Rat) ^ p := by
    rw [Nat.cast_pow, Nat.cast_ofNat, ← zpow_natCast, ← zpow_add₀ (by norm_num), Nat.cast_sub hcount]
    congr 1
    push_cast
    ring
  have hnext : (10 : Rat) ^ (p + count) = ((10 ^ count : Nat) : Rat) * (10 : Rat) ^ p := by
    rw [Nat.cast_pow, Nat.cast_ofNat, ← zpow_natCast, ← zpow_add₀ (by norm_num), add_comm]
  have hstep {k l : Nat} (hkl : k < l) : (k : Rat) * (10 : Rat) ^ p + (10 : Rat) ^ p ≤ l * 10 ^ p := by
    rw [← add_one_mul]
    exact mul_le_mul_of_nonneg_right (by exact_mod_cast hkl) hunit.le
  rcases le_or_gt ((10 : Rat) ^ (p + count - 1)) v with hle | hlt
  · -- The number has the order of the decimal.
    have hplace : lastPlace count v = p := by
      refine lastPlace_eq ((ten_zpow_pos _).trans_le hle) hle ?_
      rw [hnext]
      linarith [hstep hhigh]
    exact toRat_significant_of_lastPlace ((ten_zpow_pos _).trans_le hle) hplace (by linarith)
  · -- The decimal is a power of ten and the number below it.
    have hn : 10 ^ (count - 1) = n := by
      by_contra hne
      have := hstep (lt_of_le_of_ne hlow hne)
      linarith
    rw [← hn, ← hfirst] at h ⊢
    exact toRat_significant_of_near_power hcount hlt h

end Decimal

end LinearProgram
