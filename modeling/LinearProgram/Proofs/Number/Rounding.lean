import Mathlib.Data.Rat.Floor
import Mathlib.Tactic.Linarith
import Mathlib.Tactic.NormNum
import Mathlib.Tactic.Ring
import LinearProgram.Number.Rounding

/-!
# Rounding

**The nearest integer** is at most one half away (`abs_nearestEven_sub_le`), so no integer is nearer
(`abs_nearestEven_sub_le_abs_sub`), and an integer that is less than one half away is the nearest
(`nearestEven_eq_of_abs_sub_lt`). A tie goes to an even integer (`even_nearestEven_of_tie`).

**The order of magnitude** is the exponent `e` with `base ^ e ≤ v < base ^ (e + 1)`, and there is
only one (`orderOf_eq_iff`).
-/

namespace LinearProgram

variable {v : Rat} {n : Int} {base : Nat}

/-! ## The nearest integer -/

theorem abs_nearestEven_sub_le (v : Rat) : |(nearestEven v : Rat) - v| ≤ 1 / 2 := by
  have hle : (v.floor : Rat) ≤ v := Int.floor_le v
  have hlt : v < v.floor + 1 := Int.lt_floor_add_one v
  rw [abs_le, nearestEven]
  split_ifs <;> push_cast <;> constructor <;> linarith

/-- Two integers that are less than one apart are the same. -/
theorem int_eq_of_abs_sub_lt {m n : Int} (h : |(m : Rat) - n| < 1) : m = n := by
  have habs : |m - n| < 1 := by exact_mod_cast h
  have := Int.abs_lt_one_iff.1 habs
  omega

theorem nearestEven_eq_of_abs_sub_lt (h : |v - n| < 1 / 2) : nearestEven v = n := by
  refine int_eq_of_abs_sub_lt ?_
  calc |(nearestEven v : Rat) - n| = |((nearestEven v : Rat) - v) + (v - n)| := by ring_nf
    _ ≤ |(nearestEven v : Rat) - v| + |v - n| := abs_add_le _ _
    _ < 1 := by linarith [abs_nearestEven_sub_le v]

/-- **No integer is nearer.** -/
theorem abs_nearestEven_sub_le_abs_sub (v : Rat) (n : Int) :
    |(nearestEven v : Rat) - v| ≤ |(n : Rat) - v| := by
  by_cases h : |v - n| < 1 / 2
  · rw [nearestEven_eq_of_abs_sub_lt h]
  · rw [abs_sub_comm (n : Rat) v]
    linarith [abs_nearestEven_sub_le v]

/-- A tie goes to an even integer. -/
theorem even_nearestEven_of_tie (hne : n ≠ nearestEven v)
    (h : |(n : Rat) - v| = |(nearestEven v : Rat) - v|) : nearestEven v % 2 = 0 := by
  -- Two integers that are equally near are a half away, which leaves the last branch.
  have hhalf : |(nearestEven v : Rat) - v| = 1 / 2 := by
    by_contra hother
    have hlt : |v - n| < 1 / 2 := by
      rw [abs_sub_comm, h]
      exact lt_of_le_of_ne (abs_nearestEven_sub_le v) hother
    exact hne (nearestEven_eq_of_abs_sub_lt hlt).symm
  have hle : (v.floor : Rat) ≤ v := Int.floor_le v
  have hlt : v < v.floor + 1 := Int.lt_floor_add_one v
  rw [nearestEven] at hhalf ⊢
  split_ifs at hhalf ⊢ with hbelow habove heven
  · rw [abs_sub_comm, abs_of_nonneg (by linarith)] at hhalf
    exact absurd hhalf hbelow.ne
  · push_cast at hhalf
    rw [abs_of_nonneg (by linarith)] at hhalf
    linarith
  · exact heven
  · omega

/-- An integer that is as near, and even where there are two, is the nearest one. -/
theorem eq_nearestEven (hnear : |(n : Rat) - v| ≤ |(nearestEven v : Rat) - v|)
    (heven : n ≠ nearestEven v → n % 2 = 0) : n = nearestEven v := by
  by_contra hne
  -- Two that are equally near stand next to each other, and only one of them is even.
  have htie := le_antisymm hnear (abs_nearestEven_sub_le_abs_sub v n)
  have hother := even_nearestEven_of_tie hne htie
  have hclose : |(n : Rat) - nearestEven v| ≤ 1 := by
    have hhalf := abs_nearestEven_sub_le v
    calc |(n : Rat) - nearestEven v| = |((n : Rat) - v) - ((nearestEven v : Rat) - v)| := by
          ring_nf
      _ ≤ |(n : Rat) - v| + |(nearestEven v : Rat) - v| := abs_sub _ _
      _ ≤ 1 := by linarith
  have hclose : |n - nearestEven v| ≤ 1 := by exact_mod_cast hclose
  have := abs_le.1 hclose
  have := heven hne
  omega

theorem le_nearestEven (h : (n : Rat) ≤ v) : n ≤ nearestEven v := by
  by_contra hlt
  have hstep : (nearestEven v : Rat) + 1 ≤ n := by exact_mod_cast not_le.1 hlt
  have := abs_le.1 (abs_nearestEven_sub_le v)
  linarith

theorem nearestEven_le (h : v ≤ n) : nearestEven v ≤ n := by
  by_contra hlt
  have hstep : (n : Rat) + 1 ≤ nearestEven v := by exact_mod_cast not_le.1 hlt
  have := abs_le.1 (abs_nearestEven_sub_le v)
  linarith

/-! ## Grids -/

/-- The distance of a multiple of a unit, in units. -/
theorem abs_mul_sub (x v : Rat) {unit : Rat} (hunit : 0 < unit) :
    |x * unit - v| = |x - v / unit| * unit := by
  rw [← abs_of_pos hunit, ← abs_mul, abs_of_pos hunit, sub_mul, div_mul_cancel₀ v hunit.ne']

/-- The multiple of a unit that is nearest is at most half a unit away. -/
theorem abs_nearestEven_mul_sub_le (v : Rat) {unit : Rat} (hunit : 0 < unit) :
    |(nearestEven (v / unit) : Rat) * unit - v| ≤ unit / 2 := by
  rw [abs_mul_sub _ _ hunit]
  have := mul_le_mul_of_nonneg_right (abs_nearestEven_sub_le (v / unit)) hunit.le
  linarith

/-- No multiple of the unit is nearer. -/
theorem abs_nearestEven_mul_sub_le_abs_sub (v : Rat) {unit : Rat} (hunit : 0 < unit) (n : Int) :
    |(nearestEven (v / unit) : Rat) * unit - v| ≤ |(n : Rat) * unit - v| := by
  rw [abs_mul_sub _ _ hunit, abs_mul_sub _ _ hunit]
  exact mul_le_mul_of_nonneg_right (abs_nearestEven_sub_le_abs_sub _ n) hunit.le

/-! ## Orders of magnitude -/

theorem pow_digitCount_le {n : Nat} (hbase : 1 < base) (hn : 0 < n) :
    base ^ (digitCount base n - 1) ≤ n := by
  by_contra hlt
  have hpos : digitCount base n - 1 ≠ 0 := by
    rintro hzero
    rw [hzero, pow_zero] at hlt
    omega
  have := (Nat.length_toDigits_le_iff hbase (Nat.pos_of_ne_zero hpos)).2 (not_le.1 hlt)
  rw [digitCount] at hpos this
  omega

theorem digitCount_pos (base n : Nat) : 0 < digitCount base n := Nat.length_toDigits_pos

theorem lt_pow_digitCount {n : Nat} (hbase : 1 < base) : n < base ^ digitCount base n :=
  (Nat.length_toDigits_le_iff hbase (digitCount_pos base n)).1 le_rfl

variable (hbase : 1 < base)

include hbase

theorem one_lt_cast_base : (1 : Rat) < base := by exact_mod_cast hbase

theorem zpow_base_pos (e : Int) : (0 : Rat) < (base : Rat) ^ e :=
  zpow_pos (zero_lt_one.trans (one_lt_cast_base hbase)) e

/-- The number of digits of a natural number says between which powers it lies. -/
theorem zpow_digitCount_bounds {n : Nat} (hn : 0 < n) :
    (base : Rat) ^ ((digitCount base n : Int) - 1) ≤ n ∧
      (n : Rat) < (base : Rat) ^ (digitCount base n : Int) := by
  have hlow : ((base ^ (digitCount base n - 1) : Nat) : Rat) ≤ n := by
    exact_mod_cast pow_digitCount_le hbase hn
  have hhigh : (n : Rat) < ((base ^ digitCount base n : Nat) : Rat) := by
    exact_mod_cast lt_pow_digitCount hbase
  rw [Nat.cast_pow, ← zpow_natCast] at hlow hhigh
  rw [Nat.cast_sub (digitCount_pos base n), Nat.cast_one] at hlow
  exact ⟨hlow, hhigh⟩

/-- The digit counts of numerator and denominator miss the order of magnitude by one at most. -/
theorem lt_and_lt_of_digitCounts (hv : 0 < v) :
    (base : Rat) ^ ((digitCount base v.num.natAbs : Int) - digitCount base v.den - 1) < v ∧
      v < (base : Rat) ^ ((digitCount base v.num.natAbs : Int) - digitCount base v.den + 1) := by
  set k := digitCount base v.num.natAbs
  set l := digitCount base v.den
  have hone := one_lt_cast_base hbase
  have hnum : 0 < v.num.natAbs := Int.natAbs_pos.2 (Rat.num_pos.2 hv).ne'
  have hden : (0 : Rat) < v.den := by exact_mod_cast v.den_pos
  have hvalue : v = (v.num.natAbs : Rat) / v.den := by
    rw [Nat.cast_natAbs, abs_of_pos (Rat.num_pos.2 hv), Rat.num_div_den]
  obtain ⟨hnumLow, hnumHigh⟩ := zpow_digitCount_bounds hbase hnum
  obtain ⟨hdenLow, hdenHigh⟩ := zpow_digitCount_bounds hbase v.den_pos
  have hzero : (base : Rat) ≠ 0 := (zero_lt_one.trans hone).ne'
  constructor
  · calc (base : Rat) ^ ((k : Int) - l - 1)
        = (base : Rat) ^ ((k : Int) - 1) / (base : Rat) ^ (l : Int) := by
          rw [← zpow_sub₀ hzero, sub_right_comm]
      _ < (base : Rat) ^ ((k : Int) - 1) / v.den :=
          div_lt_div_of_pos_left (zpow_base_pos hbase _) hden hdenHigh
      _ ≤ (v.num.natAbs : Rat) / v.den := by gcongr
      _ = v := hvalue.symm
  · calc v = (v.num.natAbs : Rat) / v.den := hvalue
      _ < (base : Rat) ^ (k : Int) / v.den := by gcongr
      _ ≤ (base : Rat) ^ (k : Int) / (base : Rat) ^ ((l : Int) - 1) :=
          div_le_div_of_nonneg_left (zpow_base_pos hbase _).le (zpow_base_pos hbase _) hdenLow
      _ = (base : Rat) ^ ((k : Int) - l + 1) := by
          rw [← zpow_sub₀ hzero]
          ring_nf

/-- **The order of magnitude** of a positive number. -/
theorem orderOf_spec (hv : 0 < v) :
    (base : Rat) ^ orderOf base v ≤ v ∧ v < (base : Rat) ^ (orderOf base v + 1) := by
  obtain ⟨hlow, hhigh⟩ := lt_and_lt_of_digitCounts hbase hv
  rw [orderOf]
  split_ifs with h
  · exact ⟨h, hhigh⟩
  · exact ⟨hlow.le, by simpa using h⟩

theorem orderOf_eq_iff (hv : 0 < v) {e : Int} :
    orderOf base v = e ↔ (base : Rat) ^ e ≤ v ∧ v < (base : Rat) ^ (e + 1) := by
  obtain ⟨hlow, hhigh⟩ := orderOf_spec hbase hv
  have hone := one_lt_cast_base hbase
  constructor
  · rintro rfl
    exact ⟨hlow, hhigh⟩
  · rintro ⟨hlow', hhigh'⟩
    have h := (zpow_lt_zpow_iff_right₀ hone).1 (hlow.trans_lt hhigh')
    have h' := (zpow_lt_zpow_iff_right₀ hone).1 (hlow'.trans_lt hhigh)
    omega

theorem le_orderOf_iff (hv : 0 < v) {e : Int} : e ≤ orderOf base v ↔ (base : Rat) ^ e ≤ v := by
  obtain ⟨hlow, hhigh⟩ := orderOf_spec hbase hv
  have hone := one_lt_cast_base hbase
  constructor
  · intro h
    exact (zpow_le_zpow_right₀ hone.le h).trans hlow
  · intro h
    have := (zpow_lt_zpow_iff_right₀ hone).1 (h.trans_lt hhigh)
    omega

end LinearProgram
