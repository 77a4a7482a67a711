/-!
# Rounding

Two general operations on rational numbers, from which double precision and the decimal forms are
made: the nearest integer, where a tie goes to the even neighbour, and the order of magnitude with
respect to a base, which says on what grid to round.
-/

namespace LinearProgram

/-- The nearest integer; of two that are equally near, the even one. -/
def nearestEven (v : Rat) : Int :=
  let below := v.floor
  let rest := v - below
  if rest < 1 / 2 then below
  else if 1 / 2 < rest then below + 1
  else if below % 2 = 0 then below else below + 1

/-- The number of digits of `n` in the given base. -/
def digitCount (base n : Nat) : Nat := (Nat.toDigits base n).length

/-- The exponent `e` with `base ^ e ≤ v < base ^ (e + 1)`, for positive `v`. The digit counts of
numerator and denominator leave two candidates. -/
def orderOf (base : Nat) (v : Rat) : Int :=
  let candidate := (digitCount base v.num.natAbs : Int) - (digitCount base v.den : Int)
  if (base : Rat) ^ candidate ≤ v then candidate else candidate - 1

end LinearProgram
