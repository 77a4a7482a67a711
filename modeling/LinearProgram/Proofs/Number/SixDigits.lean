import LinearProgram.Proofs.Number.Decimal
import LinearProgram.Proofs.Number.Literal

/-!
# Six digits

How a magnitude is displayed. Rounded to six significant digits it is written out as a literal if it
is at least `10 ^ -4` and less than `10 ^ 6` (`Magnitude.WrittenOut`), and otherwise a power of ten
is written behind the literal of its digits.

**Displaying twice** (`writeMagnitude_nearest?`). What is read back is the magnitude nearest to the
six digits. It misses them by much less than half a unit of the sixth digit, so it is rounded to them
again. Just below a power of ten the unit is a tenth of that, which still is more than enough.
-/

namespace LinearProgram

variable {digits : Text} {order : Int} {m m' : Magnitude}

/-! ## Layouts -/

namespace NumberFormat

/-- **Digits that are written out** are a literal. The first of them stands for the order. -/
theorem exists_literal_layout (hne : digits ≠ []) (hdigits : ∀ c ∈ digits, isDigit c = true)
    (hlow : -4 ≤ order) (hhigh : order < 6) :
    ∃ l : Literal, l.text = general.layout digits order ∧
      l.decimal.toRat = (digitsValue digits : Rat) * (10 : Rat) ^ (order + 1 - digits.length) := by
  have hzeros (k : Nat) : ∀ c ∈ List.replicate k '0', isDigit c = true := fun c hc => by
    rw [List.eq_of_mem_replicate hc]
    decide
  have hplain : ¬(order < -4 || general.scientificFrom ≤ order) = true := by
    rw [Bool.or_eq_true, decide_eq_true_eq, decide_eq_true_eq]
    exact not_or.2 ⟨not_lt.2 hlow, not_le.2 hhigh⟩
  rw [layout.eq_def, if_neg hplain]
  by_cases hsmall : order < 0
  · -- Zeros stand between the point and the digits.
    rw [if_pos hsmall]
    let zeros := List.replicate (-order - 1).toNat '0'
    refine ⟨⟨['0'], some (zeros ++ digits), by simp, Text.forall_of_all (by decide), ?_⟩, rfl, ?_⟩
    · intro places hplaces c hc
      obtain rfl : zeros ++ digits = places := by simpa using hplaces
      exact (List.mem_append.1 hc).elim (hzeros _ c) (hdigits c)
    · have hvalue : digitsValue (['0'] ++ (zeros ++ digits)) = digitsValue digits := by
        have hone : ['0'] = List.replicate 1 '0' := rfl
        rw [hone, digitsValue_zeros_append, digitsValue_zeros_append]
      have hplaces : -((zeros ++ digits).length : Int) = order + 1 - digits.length := by
        simp only [zeros, List.length_append, List.length_replicate]
        omega
      simp only [Decimal.toRat, Literal.decimal, Option.getD_some, hvalue, hplaces]
  rw [if_neg hsmall]
  dsimp only
  split_ifs with hwhole
  · -- Zeros stand behind the digits.
    let zeros := List.replicate (order.toNat + 1 - digits.length) '0'
    refine ⟨⟨digits ++ zeros, none, by simp [hne], ?_, by simp⟩, rfl, ?_⟩
    · exact fun c hc => (List.mem_append.1 hc).elim (hdigits c) (hzeros _ c)
    · have hlength : order + 1 - digits.length = ((order.toNat + 1 - digits.length : Nat) : Int) := by
        omega
      simp only [Decimal.toRat, Literal.decimal, Option.getD_none, List.append_nil, zeros,
        digitsValue_append_zeros, List.length_nil, hlength, zpow_natCast]
      simp
  · -- The point stands between the digits.
    refine ⟨⟨digits.take (order.toNat + 1), some (digits.drop (order.toNat + 1)), ?_, ?_, ?_⟩, rfl,
      ?_⟩
    · simp [hne]
    · exact fun c hc => hdigits c (List.mem_of_mem_take hc)
    · simpa using fun c hc => hdigits c (List.mem_of_mem_drop hc)
    · have hplaces : -((digits.drop (order.toNat + 1)).length : Int) =
          order + 1 - digits.length := by
        rw [List.length_drop]
        omega
      simp only [Decimal.toRat, Literal.decimal, Option.getD_some, List.take_append_drop, hplaces]

/-- Otherwise a power of ten follows the literal of the digits. -/
theorem exists_literal_layout_append (hne : digits ≠ []) (hdigits : ∀ c ∈ digits, isDigit c = true)
    (h : order < -4 ∨ 6 ≤ order) :
    ∃ l : Literal, l.text ++ writeExponent order = general.layout digits order := by
  have hpower : (order < -4 || general.scientificFrom ≤ order) = true := by
    rw [Bool.or_eq_true, decide_eq_true_eq, decide_eq_true_eq]
    exact h
  obtain ⟨lead, places, rfl⟩ := List.exists_cons_of_ne_nil hne
  obtain ⟨hlead, hplaces⟩ := List.forall_mem_cons.1 hdigits
  rw [layout.eq_def, if_pos hpower]
  cases places with
  | nil => exact ⟨⟨[lead], none, by simp, by simpa using hlead, by simp⟩, rfl⟩
  | cons next places =>
    refine ⟨⟨[lead], some (next :: places), by simp, by simpa using hlead, ?_⟩, rfl⟩
    simpa using hplaces

/-- A power of ten is written as its mark, its sign and digits. -/
theorem exists_writeExponent (e : Int) : ∃ digits : Text,
    writeExponent e = 'e' :: (if e < 0 then '-' else '+') :: digits ∧
      ∀ c ∈ digits, c.isDigit = true := by
  refine ⟨_, rfl, fun c hc => ?_⟩
  rcases List.mem_append.1 hc with hc | hc
  · rw [List.eq_of_mem_replicate hc]
    decide
  · exact char_isDigit_of_mem_toDigits hc

end NumberFormat

/-! ## Magnitudes -/

namespace Magnitude

/-- A magnitude rounded to six significant digits. -/
def sixDigits (m : Magnitude) : Decimal := Decimal.significant 6 m.toRat

/-- The magnitude is displayed with all its digits written out: it is zero, or the leading one of
its six digits stands for a power of ten between `10 ^ -4` and `10 ^ 5`. -/
def WrittenOut (m : Magnitude) : Prop :=
  m.significand = 0 ∨
    ∃ d : Decimal, d.Rounds 6 m.toRat ∧ (10 : Rat) ^ (-4 : Int) ≤ d.toRat ∧
      d.toRat < (10 : Rat) ^ (6 : Int)

theorem sixDigits_rounds (h : m.significand ≠ 0) : m.sixDigits.Rounds 6 m.toRat :=
  Decimal.significant_rounds 6 (toRat_pos h)

theorem sixDigits_ne_zero (h : m.significand ≠ 0) : m.sixDigits.digits ≠ 0 := by
  have : 10 ^ 5 ≤ m.sixDigits.digits :=
    (Decimal.digits_significant (show 0 < 6 by decide) (toRat_pos h)).1
  omega

theorem toRat_sixDigits_of_zero (h : m.significand = 0) : m.sixDigits.toRat = 0 := by
  rw [eq_zero_of_significand h, sixDigits, Decimal.toRat]
  have hzero : (Decimal.significant 6 zero.toRat).digits = 0 := by
    rw [toRat_zero]
    decide +kernel
  rw [hzero, Nat.cast_zero, zero_mul]

theorem writtenOut_iff (h : m.significand ≠ 0) : m.WrittenOut ↔
    (10 : Rat) ^ (-4 : Int) ≤ m.sixDigits.toRat ∧ m.sixDigits.toRat < (10 : Rat) ^ (6 : Int) := by
  constructor
  · rintro (hzero | ⟨d, hd, hbounds⟩)
    · exact absurd hzero h
    · rwa [hd.eq_significant (toRat_pos h)] at hbounds
  · exact fun hbounds => Or.inr ⟨m.sixDigits, sixDigits_rounds h, hbounds⟩

theorem writtenOut_iff_order (h : m.significand ≠ 0) :
    m.WrittenOut ↔ -4 ≤ m.sixDigits.order ∧ m.sixDigits.order < 6 := by
  have hne := sixDigits_ne_zero h
  rw [writtenOut_iff h, Decimal.le_order_iff hne, Decimal.order_lt_iff hne]

end Magnitude

namespace NumberFormat

theorem isDigit_of_mem_significantDigits {d : Decimal} {c : Char}
    (hc : c ∈ significantDigits d) : isDigit c = true :=
  isDigit_of_char_isDigit (char_isDigit_of_mem_significantDigits hc)

theorem writeMagnitude_eq_layout (h : m.significand ≠ 0) : general.writeMagnitude m =
    general.layout (significantDigits m.sixDigits) m.sixDigits.order := by
  rw [writeMagnitude, if_neg h]
  rfl

/-- A magnitude that is written out is the literal of its six digits. -/
theorem exists_literal_writeMagnitude (h : m.WrittenOut) :
    ∃ l : Literal, l.text = general.writeMagnitude m ∧ l.decimal.toRat = m.sixDigits.toRat := by
  by_cases hzero : m.significand = 0
  · refine ⟨⟨['0'], none, by simp, Text.forall_of_all (by decide), by simp⟩, ?_, ?_⟩
    · rw [writeMagnitude, if_pos hzero]
      rfl
    · have hvalue : digitsValue ['0'] = 0 := by decide
      rw [Magnitude.toRat_sixDigits_of_zero hzero]
      simp [Literal.decimal, Decimal.toRat, hvalue]
  · obtain ⟨hlow, hhigh⟩ := (Magnitude.writtenOut_iff_order hzero).1 h
    rw [writeMagnitude_eq_layout hzero, Decimal.toRat_eq_significantDigits]
    exact exists_literal_layout
      (Decimal.significantDigits_ne_nil (Magnitude.sixDigits_ne_zero hzero))
      (fun c => isDigit_of_mem_significantDigits) hlow hhigh

/-- Any other magnitude is a literal with a power of ten behind it. -/
theorem exists_literal_writeMagnitude_append (h : ¬m.WrittenOut) :
    ∃ (l : Literal) (e : Int), l.text ++ writeExponent e = general.writeMagnitude m := by
  have hne : m.significand ≠ 0 := fun hzero => h (Or.inl hzero)
  rw [Magnitude.writtenOut_iff_order hne] at h
  rw [writeMagnitude_eq_layout hne]
  have hpower : m.sixDigits.order < -4 ∨ 6 ≤ m.sixDigits.order := by omega
  obtain ⟨l, hl⟩ := exists_literal_layout_append
    (Decimal.significantDigits_ne_nil (Magnitude.sixDigits_ne_zero hne))
    (fun c => isDigit_of_mem_significantDigits) hpower
  exact ⟨l, _, hl⟩

end NumberFormat

/-! ## Displaying twice -/

namespace Magnitude

/-- Six digits that are written out are well within the exponents of the format. -/
theorem orderOf_two_of_bounds {v : Rat} (hlow : (10 : Rat) ^ (-4 : Int) ≤ v)
    (hhigh : v < (10 : Rat) ^ (6 : Int)) : -1022 ≤ orderOf 2 v ∧ orderOf 2 v ≤ 1022 := by
  have hv : 0 < v := (Decimal.ten_zpow_pos _).trans_le hlow
  constructor
  · have hle : (2 : Rat) ^ (-14 : Int) ≤ v := le_trans (by norm_num) hlow
    exact le_trans (by decide) ((le_orderOf_two_iff hv).2 hle)
  · by_contra hlt
    have hle : (2 : Rat) ^ (20 : Int) ≤ v := (le_orderOf_two_iff hv).1 (by omega)
    have : (10 : Rat) ^ (6 : Int) < (2 : Rat) ^ (20 : Int) := by norm_num
    linarith

/-- **The six digits of the magnitude nearest to them** are the same. -/
theorem toRat_sixDigits_of_nearest? (hwritten : m.WrittenOut) (hne : m.significand ≠ 0)
    (h : nearest? m.sixDigits.toRat = some m') : m'.sixDigits.toRat = m.sixDigits.toRat := by
  obtain ⟨hlow, hhigh⟩ := (writtenOut_iff hne).1 hwritten
  obtain ⟨n, p, hn, hn', hvalue⟩ :=
    Decimal.exists_toRat_significant (show 0 < 6 by decide) (toRat_pos hne)
  have hpos := Decimal.toRat_pos (sixDigits_ne_zero hne)
  have herror := abs_toRat_sub_le hpos (orderOf_two_of_bounds hlow hhigh).1 h
  rw [show m.sixDigits.toRat = n * (10 : Rat) ^ p from hvalue] at herror ⊢
  refine Decimal.toRat_significant_of_near (by decide) hn hn' ?_
  have hunit := Decimal.ten_zpow_pos p
  have hn'' : (n : Rat) * (10 : Rat) ^ p ≤ 10 ^ 6 * (10 : Rat) ^ p :=
    mul_le_mul_of_nonneg_right (by exact_mod_cast hn'.le) hunit.le
  linarith

end Magnitude

namespace NumberFormat

/-- **What is read back is displayed as before.** -/
theorem writeMagnitude_nearest? (h : m.WrittenOut)
    (hnearest : Magnitude.nearest? m.sixDigits.toRat = some m') :
    general.writeMagnitude m' = general.writeMagnitude m := by
  by_cases hzero : m.significand = 0
  · rw [Magnitude.toRat_sixDigits_of_zero hzero, Magnitude.nearest?_zero] at hnearest
    obtain rfl := Option.some.inj hnearest
    rw [Magnitude.eq_zero_of_significand hzero]
  · have hvalue := Magnitude.toRat_sixDigits_of_nearest? h hzero hnearest
    have hne := Magnitude.sixDigits_ne_zero hzero
    have hzero' : m'.significand ≠ 0 := by
      intro hzero'
      rw [Magnitude.toRat_sixDigits_of_zero hzero'] at hvalue
      exact (Decimal.toRat_pos hne).ne hvalue
    have hne' := Magnitude.sixDigits_ne_zero hzero'
    rw [writeMagnitude_eq_layout hzero, writeMagnitude_eq_layout hzero',
      Decimal.significantDigits_eq_of_toRat_eq hne' hvalue, Decimal.order_eq_orderOf hne',
      Decimal.order_eq_orderOf hne, hvalue]

end NumberFormat

end LinearProgram
