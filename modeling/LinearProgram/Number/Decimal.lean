import LinearProgram.Number.Basic

/-!
# Decimal forms of a number

A decimal is an integer with a power of ten. Two decimals are made from a magnitude: the one with
a given number of significant digits (`Decimal.significant`), and the shortest one that still
reads back as the same magnitude (`Decimal.shortest`).
-/

namespace LinearProgram

/-- The decimal `digits · 10 ^ exponent`. -/
structure Decimal where
  digits : Nat
  exponent : Int
  deriving DecidableEq

namespace Decimal

/-- The exact value. -/
def toRat (d : Decimal) : Rat := (d.digits : Rat) * (10 : Rat) ^ d.exponent

/-- The power of ten of the leading digit. -/
def order (d : Decimal) : Int := d.exponent + (digitCount 10 d.digits : Int) - 1

/-- The magnitude that a decimal is read as. Decimals so great or so small that the power of ten
alone decides are not multiplied out. -/
def toNumber (negative : Bool) (d : Decimal) : Number :=
  if d.digits = 0 || d.order < -400 then .finite negative .zero
  else if 400 < d.order then .infinite negative
  else .ofMagnitude negative d.toRat

/-- The unit in the last place when `count` significant digits of `v` are kept. -/
def lastPlace (count : Nat) (v : Rat) : Int := orderOf 10 v - count + 1

/-- The decimal with `count` significant digits nearest to a positive number. A number that rounds
up to a power of ten has one digit more, a zero. -/
def significant (count : Nat) (v : Rat) : Decimal :=
  let place := lastPlace count v
  ⟨(nearestEven (v / (10 : Rat) ^ place)).toNat, place⟩

/-- The decimal with `count` significant digits that reads back as `m`, the nearer one if there
are two, and the even one if both are equally near: only the neighbours of the exact value on that
grid can read back. -/
def faithful? (count : Nat) (m : Magnitude) : Option Decimal :=
  let place := lastPlace count m.toRat
  let scaled := m.toRat / (10 : Rat) ^ place
  let below := scaled.floor
  let nearest := nearestEven scaled
  let other := if nearest = below then below + 1 else below
  let candidates := [nearest, other].map fun n => Decimal.mk n.toNat place
  candidates.find? fun d => Magnitude.nearest? d.toRat == some m

/-- The decimal with the fewest digits that reads back as `m`, nearest to it among those. Seventeen
digits always suffice. -/
def shortest (m : Magnitude) : Decimal :=
  ((List.range 17).findSome? fun n => faithful? (n + 1) m).getD (significant 17 m.toRat)

end Decimal

end LinearProgram
