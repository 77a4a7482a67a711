import LinearProgram.Number.Rounding

/-!
# Numbers of double precision

Coefficients and constants are numbers of double precision. They are modelled by what they are: a
sign and a magnitude `significand · 2 ^ exponent` in its one canonical form, or an infinity, or no
number at all. Every operation is the exact rational operation followed by one rounding to the
nearest magnitude, ties going to the even significand.

The exact value of a finite number is `Number.toRat?`; zero has two signs and one value. What is
done with any kind of numbers that have exact values (`ExactValue`) is done with rationals as well.
-/

namespace LinearProgram

/-- The canonical forms: 53 bits of significand, and fewer only at the least exponent. -/
abbrev IsCanonical (significand : Nat) (exponent : Int) : Prop :=
  significand < 9007199254740992 ∧ -1074 ≤ exponent ∧ exponent ≤ 971 ∧
    (4503599627370496 ≤ significand ∨ exponent = -1074)

/-- A finite number of double precision without its sign: `significand · 2 ^ exponent`. -/
structure Magnitude where
  significand : Nat
  exponent : Int
  canonical : IsCanonical significand exponent
  deriving DecidableEq

namespace Magnitude

/-- The magnitude zero. -/
def zero : Magnitude := ⟨0, -1074, by decide⟩

/-- The magnitude one. -/
def one : Magnitude := ⟨4503599627370496, -52, by decide⟩

/-- The exact value. -/
def toRat (m : Magnitude) : Rat := (m.significand : Rat) * (2 : Rat) ^ m.exponent

/-- The magnitude with these parts, if they are canonical. A significand that has been rounded up
to the next power of two is halved first. -/
def ofParts? (significand : Nat) (exponent : Int) : Option Magnitude :=
  if h : IsCanonical significand exponent then some ⟨significand, exponent, h⟩
  else if h : significand = 9007199254740992 ∧ IsCanonical 4503599627370496 (exponent + 1) then
    some ⟨4503599627370496, exponent + 1, h.2⟩
  else none

/-- The magnitude nearest to a rational number that is not negative; nothing when it is beyond
the greatest one. The grid has 53 significant bits, but is never finer than `2 ^ -1074`. -/
def nearest? (v : Rat) : Option Magnitude :=
  if v = 0 then some zero
  else
    let exponent := max (orderOf 2 v - 52) (-1074)
    ofParts? (nearestEven (v / (2 : Rat) ^ exponent)).toNat exponent

end Magnitude

/-- A number of double precision. -/
inductive Number where
  | finite (negative : Bool) (magnitude : Magnitude)
  | infinite (negative : Bool)
  | undefined
  deriving DecidableEq

namespace Number

instance : Zero Number := ⟨.finite false .zero⟩

instance : One Number := ⟨.finite false .one⟩

instance : Inhabited Number := ⟨0⟩

/-- The number with the given sign nearest to a rational magnitude. -/
def ofMagnitude (negative : Bool) (v : Rat) : Number :=
  match Magnitude.nearest? v with
  | some m => .finite negative m
  | none => .infinite negative

/-- The number nearest to a rational number. -/
def ofRat (v : Rat) : Number := ofMagnitude (v < 0) v.abs

/-- The exact value of a signed magnitude. -/
def signedValue (negative : Bool) (m : Magnitude) : Rat := if negative then -m.toRat else m.toRat

/-- The exact value of a finite number. -/
def toRat? : Number → Option Rat
  | .finite negative m => some (signedValue negative m)
  | .infinite _ => none
  | .undefined => none

/-- Whether the number is finite. -/
def isFinite : Number → Bool
  | .finite _ _ => true
  | .infinite _ => false
  | .undefined => false

/-- The number with the opposite sign, also of zero. -/
def neg : Number → Number
  | .finite negative m => .finite (!negative) m
  | .infinite negative => .infinite (!negative)
  | .undefined => .undefined

instance : Neg Number := ⟨neg⟩

/-- The sum, rounded once. A sum of zero is positive unless both summands are negative. -/
def add : Number → Number → Number
  | .finite s a, .finite t b =>
    let exact := signedValue s a + signedValue t b
    if exact = 0 then .finite (s && t) .zero else ofRat exact
  | .finite _ _, .infinite t => .infinite t
  | .infinite s, .finite _ _ => .infinite s
  | .infinite s, .infinite t => if s = t then .infinite s else .undefined
  | .undefined, _ => .undefined
  | _, .undefined => .undefined

instance : Add Number := ⟨add⟩

end Number

/-- A kind of numbers, some or all of which have an exact value. -/
class ExactValue (α : Type) where
  toRat? : α → Option Rat

instance : ExactValue Number := ⟨Number.toRat?⟩

instance : ExactValue Rat := ⟨some⟩

end LinearProgram
