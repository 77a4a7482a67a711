import LinearProgram.Number.Basic
import LinearProgram.Proofs.Number.Rounding

/-!
# The nearest magnitude

The magnitudes near a positive number lie on a grid. Its unit (`spacing`) is such that the number
has 53 binary digits on it, but is never less than `2 ^ -1074`. A magnitude whose unit is not less
is on that grid as well, and any other is below the power of two that begins the number's binade.
So the multiple of the unit that is nearest is the nearest magnitude (`nearest?_isNearest`).

Within the exponents of the format there is a nearest magnitude (`exists_nearest?_eq_some`), and
above the least ones it misses the number by `2 ^ -53` of it at most (`abs_toRat_sub_le`).
-/

namespace LinearProgram

namespace Magnitude

variable {v : Rat} {m : Magnitude}

/-- No magnitude is nearer to the number, and of two that are equally near this one is even. -/
structure IsNearest (m : Magnitude) (v : Rat) : Prop where
  nearest : ∀ other : Magnitude, |m.toRat - v| ≤ |other.toRat - v|
  even : ∀ other : Magnitude, other ≠ m → |other.toRat - v| = |m.toRat - v| →
    m.significand % 2 = 0

/-! ## Values -/

theorem two_zpow_pos (e : Int) : (0 : Rat) < (2 : Rat) ^ e := zpow_pos two_pos e

theorem toRat_pos (h : m.significand ≠ 0) : 0 < m.toRat :=
  mul_pos (by exact_mod_cast Nat.pos_of_ne_zero h) (two_zpow_pos _)

@[simp] theorem toRat_zero : zero.toRat = 0 := by simp [toRat, zero]

theorem eq_zero_of_significand (h : m.significand = 0) : m = zero := by
  obtain ⟨significand, exponent, _, _, _, hleast⟩ := m
  obtain rfl : significand = 0 := h
  obtain rfl : exponent = -1074 := hleast.resolve_left (by decide)
  rfl

theorem nearest?_zero : nearest? 0 = some zero := rfl

/-! ## The grid -/

/-- The exponent of the unit of the grid on which the magnitudes near a number lie. -/
def gridExponent (v : Rat) : Int := max (orderOf 2 v - 52) (-1074)

/-- The unit of the grid on which the magnitudes near a number lie. -/
def spacing (v : Rat) : Rat := 2 ^ gridExponent v

theorem spacing_pos (v : Rat) : 0 < spacing v := two_zpow_pos _

/-- Two to the power of 52, as it stands in the bounds of significands. -/
theorem two_zpow_add_52 (e : Int) : (2 : Rat) ^ (e + 52) = 4503599627370496 * 2 ^ e := by
  rw [zpow_add₀ two_ne_zero, mul_comm]
  norm_num

theorem two_zpow_add_53 (e : Int) : (2 : Rat) ^ (e + 53) = 9007199254740992 * 2 ^ e := by
  rw [zpow_add₀ two_ne_zero, mul_comm]
  norm_num

theorem le_orderOf_two_iff (hv : 0 < v) {e : Int} : e ≤ orderOf 2 v ↔ (2 : Rat) ^ e ≤ v := by
  have := le_orderOf_iff one_lt_two hv (e := e)
  exact_mod_cast this

theorem two_zpow_orderOf_le (hv : 0 < v) : (2 : Rat) ^ orderOf 2 v ≤ v :=
  (le_orderOf_two_iff hv).1 le_rfl

/-- A number has at most 53 digits before the point on its grid. -/
theorem div_spacing_lt (hv : 0 < v) : v / spacing v < 9007199254740992 := by
  rw [div_lt_iff₀ (spacing_pos v), spacing, ← two_zpow_add_53]
  have hle : orderOf 2 v + 1 ≤ gridExponent v + 53 := by
    rw [gridExponent]
    omega
  calc v < ((2 : Nat) : Rat) ^ (orderOf 2 v + 1) := (orderOf_spec one_lt_two hv).2
    _ = (2 : Rat) ^ (orderOf 2 v + 1) := by norm_num
    _ ≤ (2 : Rat) ^ (gridExponent v + 53) := zpow_le_zpow_right₀ one_le_two hle

/-- Above the least exponent it has 53. -/
theorem le_div_spacing (hv : 0 < v) (h : gridExponent v ≠ -1074) :
    4503599627370496 ≤ v / spacing v := by
  have heq : gridExponent v + 52 = orderOf 2 v := by
    rw [gridExponent] at h ⊢
    omega
  rw [le_div_iff₀ (spacing_pos v), spacing, ← two_zpow_add_52, heq]
  exact two_zpow_orderOf_le hv

/-! ## The nearest point of the grid -/

/-- The multiple of the unit that is nearest. -/
def roundedSignificand (v : Rat) : Nat := (nearestEven (v / spacing v)).toNat

theorem cast_roundedSignificand (hv : 0 < v) :
    (roundedSignificand v : Int) = nearestEven (v / spacing v) := by
  refine Int.toNat_of_nonneg (le_nearestEven ?_)
  exact_mod_cast (div_pos hv (spacing_pos v)).le

theorem roundedSignificand_le (hv : 0 < v) : roundedSignificand v ≤ 9007199254740992 := by
  have : nearestEven (v / spacing v) ≤ 9007199254740992 :=
    nearestEven_le (by exact_mod_cast (div_spacing_lt hv).le)
  have := cast_roundedSignificand hv
  omega

theorem le_roundedSignificand (hv : 0 < v) (h : gridExponent v ≠ -1074) :
    4503599627370496 ≤ roundedSignificand v := by
  have : 4503599627370496 ≤ nearestEven (v / spacing v) :=
    le_nearestEven (by exact_mod_cast le_div_spacing hv h)
  have := cast_roundedSignificand hv
  omega

theorem nearest?_eq (hv : 0 < v) :
    nearest? v = ofParts? (roundedSignificand v) (gridExponent v) := by
  rw [nearest?, if_neg hv.ne']
  rfl

/-- Parts that are canonical up to a carry make a magnitude with the value that they say. -/
theorem exists_ofParts? {significand : Nat} {exponent : Int} (hle : significand ≤ 9007199254740992)
    (hleast : -1074 ≤ exponent) (hgreatest : exponent ≤ 970)
    (hfull : 4503599627370496 ≤ significand ∨ exponent = -1074) :
    ∃ m, ofParts? significand exponent = some m := by
  rw [ofParts?]
  split_ifs with hcanonical hcarry
  · exact ⟨_, rfl⟩
  · exact ⟨_, rfl⟩
  · exfalso
    rw [IsCanonical] at hcanonical hcarry
    omega

theorem toRat_of_ofParts? {significand : Nat} {exponent : Int}
    (h : ofParts? significand exponent = some m) :
    m.toRat = (significand : Rat) * 2 ^ exponent ∧
      (m.significand % 2 = 0 ↔ significand % 2 = 0) := by
  rw [ofParts?] at h
  split_ifs at h with hcanonical hcarry
  · obtain rfl := Option.some.inj h
    exact ⟨rfl, Iff.rfl⟩
  · obtain rfl := Option.some.inj h
    obtain ⟨rfl, -⟩ := hcarry
    have heven : 4503599627370496 % 2 = 0 ∧ 9007199254740992 % 2 = 0 := by decide
    refine ⟨?_, iff_of_true heven.1 heven.2⟩
    rw [toRat, zpow_add_one₀ two_ne_zero]
    norm_num
    ring

/-- **There is a nearest magnitude** to a number within the exponents of the format. -/
theorem exists_nearest?_eq_some (hv : 0 < v) (h : orderOf 2 v ≤ 1022) :
    ∃ m, nearest? v = some m := by
  rw [nearest?_eq hv]
  refine exists_ofParts? (roundedSignificand_le hv) (le_max_right _ _) ?_ ?_
  · rw [gridExponent]
    omega
  · by_cases hleast : gridExponent v = -1074
    · exact Or.inr hleast
    · exact Or.inl (le_roundedSignificand hv hleast)

/-- Nothing is near to a number above all exponents. -/
theorem nearest?_eq_none (h : (2 : Rat) ^ (1024 : Int) ≤ v) : nearest? v = none := by
  have hv : 0 < v := (two_zpow_pos _).trans_le h
  have horder : 1024 ≤ orderOf 2 v := (le_orderOf_two_iff hv).2 h
  have hexponent : 972 ≤ gridExponent v := by
    rw [gridExponent]
    omega
  rw [nearest?_eq hv, ofParts?, dif_neg (by rw [IsCanonical]; omega),
    dif_neg (by rw [IsCanonical]; omega)]

/-- A number of less than half the least unit is rounded to zero. -/
theorem nearest?_eq_zero (hv : 0 < v) (h : v < (2 : Rat) ^ (-1075 : Int)) :
    nearest? v = some zero := by
  have horder : orderOf 2 v < -1075 := by
    rw [← not_le, le_orderOf_two_iff hv, not_le]
    exact h
  have hexponent : gridExponent v = -1074 := by
    rw [gridExponent]
    omega
  have hhalf : |v / spacing v - ((0 : Int) : Rat)| < 1 / 2 := by
    rw [Int.cast_zero, sub_zero, abs_of_pos (div_pos hv (spacing_pos v)),
      div_lt_iff₀ (spacing_pos v), spacing, hexponent]
    calc v < (2 : Rat) ^ (-1075 : Int) := h
      _ = 1 / 2 * (2 : Rat) ^ (-1074 : Int) := by
        rw [show (-1074 : Int) = -1075 + 1 by rfl, zpow_add_one₀ two_ne_zero]
        ring
  have hrounded : roundedSignificand v = 0 := by
    rw [roundedSignificand, nearestEven_eq_of_abs_sub_lt hhalf]
    rfl
  rw [nearest?_eq hv, hrounded, hexponent]
  rfl

theorem toRat_nearest? (hv : 0 < v) (h : nearest? v = some m) :
    m.toRat = (nearestEven (v / spacing v) : Rat) * spacing v := by
  rw [nearest?_eq hv] at h
  rw [(toRat_of_ofParts? h).1, ← cast_roundedSignificand hv]
  rfl

/-- The rounding misses the number by half a unit at most. -/
theorem abs_toRat_sub_le_half (hv : 0 < v) (h : nearest? v = some m) :
    |m.toRat - v| ≤ spacing v / 2 := by
  rw [toRat_nearest? hv h]
  exact abs_nearestEven_mul_sub_le v (spacing_pos v)

/-- Above the least exponents it misses the number by `2 ^ -53` of it at most. -/
theorem abs_toRat_sub_le (hv : 0 < v) (horder : -1022 ≤ orderOf 2 v) (h : nearest? v = some m) :
    |m.toRat - v| * 9007199254740992 ≤ v := by
  have hunit : spacing v * 4503599627370496 ≤ v := by
    have heq : gridExponent v + 52 = orderOf 2 v := by
      rw [gridExponent]
      omega
    rw [spacing, mul_comm, ← two_zpow_add_52, heq]
    exact two_zpow_orderOf_le hv
  linarith [abs_toRat_sub_le_half hv h]

/-! ## All other magnitudes -/

/-- A magnitude with a greater unit is on the grid. -/
theorem exists_toRat_eq_mul_spacing (h : gridExponent v ≤ m.exponent) :
    ∃ n : Int, m.toRat = (n : Rat) * spacing v := by
  refine ⟨m.significand * 2 ^ (m.exponent - gridExponent v).toNat, ?_⟩
  rw [toRat, spacing]
  conv_lhs => rw [show m.exponent = ((m.exponent - gridExponent v).toNat : Int) + gridExponent v by
    omega, zpow_add₀ two_ne_zero, zpow_natCast]
  push_cast
  ring

/-- A magnitude has at most 53 digits. -/
theorem toRat_lt (m : Magnitude) : m.toRat < 2 ^ (m.exponent + 53) := by
  rw [two_zpow_add_53]
  refine mul_lt_mul_of_pos_right ?_ (two_zpow_pos _)
  exact_mod_cast m.canonical.1

/-- Above the least exponent it has 53. -/
theorem le_toRat (h : m.exponent ≠ -1074) : 2 ^ (m.exponent + 52) ≤ m.toRat := by
  rw [two_zpow_add_52]
  refine mul_le_mul_of_nonneg_right ?_ (two_zpow_pos _).le
  exact_mod_cast m.canonical.2.2.2.resolve_right h

/-- A magnitude with a lesser unit is below the binade of the number. -/
theorem toRat_lt_of_exponent_lt (h : m.exponent < gridExponent v) :
    m.toRat < 2 ^ orderOf 2 v := by
  have hleast := m.canonical.2.1
  have hexponent : m.exponent + 53 ≤ orderOf 2 v := by
    rw [gridExponent] at h
    omega
  calc m.toRat < 2 ^ (m.exponent + 53) := m.toRat_lt
    _ ≤ 2 ^ orderOf 2 v := zpow_le_zpow_right₀ one_le_two hexponent

/-- No point below the binade of the number is as near as the nearest point of the grid. -/
theorem abs_sub_lt_of_exponent_lt (hv : 0 < v) (h : m.exponent < gridExponent v) :
    |(nearestEven (v / spacing v) : Rat) * spacing v - v| < |m.toRat - v| := by
  -- The beginning of the binade is on the grid, between the magnitude and the number.
  have hbegin : ((4503599627370496 : Int) : Rat) * spacing v = 2 ^ orderOf 2 v := by
    have hleast := m.canonical.2.1
    have heq : gridExponent v + 52 = orderOf 2 v := by
      rw [gridExponent] at h ⊢
      omega
    rw [spacing, ← heq, two_zpow_add_52]
    norm_num
  have hlow := toRat_lt_of_exponent_lt h
  have hbinade := two_zpow_orderOf_le hv
  calc |(nearestEven (v / spacing v) : Rat) * spacing v - v|
      ≤ |((4503599627370496 : Int) : Rat) * spacing v - v| :=
        abs_nearestEven_mul_sub_le_abs_sub v (spacing_pos v) _
    _ = v - 2 ^ orderOf 2 v := by rw [hbegin, abs_sub_comm, abs_of_nonneg (by linarith)]
    _ < v - m.toRat := by linarith
    _ = |m.toRat - v| := by rw [abs_sub_comm, abs_of_nonneg (by linarith)]

/-- Magnitudes of one value are the same. -/
theorem toRat_injective : Function.Injective toRat := by
  have hle {m m' : Magnitude} (h : m.toRat = m'.toRat) : m.exponent ≤ m'.exponent := by
    by_contra hlt
    have hleast := m'.canonical.2.1
    have hvalue : m'.toRat < m.toRat := by
      calc m'.toRat < 2 ^ (m'.exponent + 53) := m'.toRat_lt
        _ ≤ 2 ^ (m.exponent + 52) := zpow_le_zpow_right₀ one_le_two (by omega)
        _ ≤ m.toRat := le_toRat (by omega)
    exact hvalue.ne' h
  intro m m' h
  have hexponent : m.exponent = m'.exponent := le_antisymm (hle h) (hle h.symm)
  have hsignificand : (m.significand : Rat) = m'.significand := by
    rw [toRat, toRat, hexponent] at h
    exact mul_right_cancel₀ (two_zpow_pos _).ne' h
  cases m
  cases m'
  simp_all

/-- **The nearest magnitude** is nearest, and ties go to the even one. -/
theorem nearest?_isNearest (hv : 0 < v) (h : nearest? v = some m) : m.IsNearest v := by
  have hvalue := toRat_nearest? hv h
  refine ⟨fun other => ?_, fun other hne heq => ?_⟩
  · rw [hvalue]
    by_cases hgrid : gridExponent v ≤ other.exponent
    · obtain ⟨n, hn⟩ := exists_toRat_eq_mul_spacing hgrid
      rw [hn]
      exact abs_nearestEven_mul_sub_le_abs_sub v (spacing_pos v) n
    · exact (abs_sub_lt_of_exponent_lt hv (not_le.1 hgrid)).le
  · by_cases hgrid : gridExponent v ≤ other.exponent
    · obtain ⟨n, hn⟩ := exists_toRat_eq_mul_spacing hgrid
      have hother : n ≠ nearestEven (v / spacing v) := by
        rintro rfl
        exact hne (toRat_injective (hn.trans hvalue.symm))
      rw [hvalue, hn, abs_mul_sub _ _ (spacing_pos v), abs_mul_sub _ _ (spacing_pos v)] at heq
      have heven := even_nearestEven_of_tie hother (mul_right_cancel₀ (spacing_pos v).ne' heq)
      rw [nearest?_eq hv] at h
      rw [(toRat_of_ofParts? h).2]
      have := cast_roundedSignificand hv
      omega
    · have hlt := abs_sub_lt_of_exponent_lt hv (not_le.1 hgrid)
      rw [← hvalue, heq] at hlt
      exact absurd hlt (lt_irrefl _)

end Magnitude

end LinearProgram
