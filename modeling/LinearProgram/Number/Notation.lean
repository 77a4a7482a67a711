import LinearProgram.Number.Decimal
import LinearProgram.Text.Blank
import LinearProgram.Text.Digit

/-!
# Numbers as text

**Written.** A number is written from its decimal digits by a `NumberFormat`, which says how many
digits to take and up to which power of ten they are written out. There are two formats: `exact`,
the shortest text that reads back, and `general`, six significant digits for display.

**Read.** `readLiteral?` reads the unsigned literals of the notation, digits with an optional point
and more digits after it. `Number.read?` reads the wider syntax of data: sign, exponent, infinity,
not-a-number.
-/

namespace LinearProgram

/-! ## Writing -/

/-- How a number is written. -/
structure NumberFormat where
  /-- The decimal that stands for a magnitude other than zero. -/
  decimal : Magnitude → Decimal
  /-- From this power of ten on, the power is written instead of all digits. -/
  scientificFrom : Int
  /-- What follows a number without places when all its digits are written. -/
  wholeMark : Text

namespace NumberFormat

/-- The shortest text that reads back, written out below `10 ^ 16` and always with a point. -/
def exact : NumberFormat := ⟨Decimal.shortest, 16, ['.', '0']⟩

/-- Six significant digits, written out below `10 ^ 6`. -/
def general : NumberFormat := ⟨fun m => Decimal.significant 6 m.toRat, 6, []⟩

/-- The digits of a decimal without the zeros at their end. -/
def significantDigits (d : Decimal) : Text :=
  ((Nat.toDigits 10 d.digits).reverse.dropWhile (· = '0')).reverse

/-- A power of ten behind the digits: the sign always, and two digits at least. -/
def writeExponent (e : Int) : Text :=
  let digits := Nat.toDigits 10 e.natAbs
  'e' :: (if e < 0 then '-' else '+') :: (List.replicate (2 - digits.length) '0' ++ digits)

/-- Digits of which the first stands for `10 ^ order`: written out from `10 ^ -4` up to the
format's limit, otherwise as one digit, places and a power. -/
def layout (format : NumberFormat) (digits : Text) (order : Int) : Text :=
  if order < -4 || format.scientificFrom ≤ order then
    match digits with
    | [] => []
    | [lead] => lead :: writeExponent order
    | lead :: places => lead :: '.' :: (places ++ writeExponent order)
  else if order < 0 then
    '0' :: '.' :: (List.replicate (-order - 1).toNat '0' ++ digits)
  else
    let whole := order.toNat + 1
    if digits.length ≤ whole then
      digits ++ List.replicate (whole - digits.length) '0' ++ format.wholeMark
    else digits.take whole ++ '.' :: digits.drop whole

/-- A magnitude in the format. -/
def writeMagnitude (format : NumberFormat) (m : Magnitude) : Text :=
  if m.significand = 0 then '0' :: format.wholeMark
  else
    let d := format.decimal m
    format.layout (significantDigits d) d.order

/-- A number in the format. -/
def write (format : NumberFormat) : Number → Text
  | .finite negative m =>
    if negative then '-' :: format.writeMagnitude m else format.writeMagnitude m
  | .infinite negative => if negative then ['-', 'i', 'n', 'f'] else ['i', 'n', 'f']
  | .undefined => ['n', 'a', 'n']

end NumberFormat

/-! ## Reading literals -/

/-- The decimal of a literal: digits, at least one, then possibly a point and more digits. -/
def literalDecimal? (s : Text) : Option Decimal :=
  let whole := s.takeWhile isDigit
  if whole.isEmpty then none
  else match s.dropWhile isDigit with
    | [] => some ⟨digitsValue whole, 0⟩
    | c :: places =>
      if c = '.' && places.all isDigit then
        some ⟨digitsValue (whole ++ places), -(places.length : Int)⟩
      else none

/-- The number nearest to a literal. -/
def readLiteral? (s : Text) : Option Number := (literalDecimal? s).map (Decimal.toNumber false)

/-! ## Reading data -/

/-- Removes the sign of a number, and says whether it was a minus. -/
def splitSign : Text → Bool × Text
  | '-' :: s => (true, s)
  | '+' :: s => (false, s)
  | s => (false, s)

/-- An integer of ASCII digits with an optional sign. -/
def readInteger? (s : Text) : Option Int :=
  let (negative, digits) := splitSign s
  if digits.isEmpty || !digits.all Char.isDigit then none
  else
    let n : Int := (digitsValue digits : Int)
    some (if negative then -n else n)

/-- The decimal of an unsigned number: digits before or after a point, then possibly a power. -/
def dataDecimal? (s : Text) : Option Decimal :=
  let isMark := fun c : Char => c = 'e' || c = 'E'
  let mantissa := s.takeWhile fun c => !isMark c
  let whole := mantissa.takeWhile Char.isDigit
  let places? : Option Text :=
    match mantissa.dropWhile Char.isDigit with
    | [] => some []
    | c :: places => if c = '.' && places.all Char.isDigit then some places else none
  let power? : Option Int :=
    match s.dropWhile fun c => !isMark c with
    | [] => some 0
    | _ :: power => readInteger? power
  match places?, power? with
  | some places, some power =>
    if whole.isEmpty && places.isEmpty then none
    else some ⟨digitsValue (whole ++ places), power - (places.length : Int)⟩
  | _, _ => none

/-- The number that a text denotes: a sign, and digits or a word for infinity or not-a-number, the
case of letters aside. -/
def signedNumber? (s : Text) : Option Number :=
  let (negative, body) := splitSign s
  let word := String.ofList (body.map Char.toLower)
  if word = "inf" || word = "infinity" then some (.infinite negative)
  else if word = "nan" then some .undefined
  else (dataDecimal? body).map (Decimal.toNumber negative)

/-- Removes underscores; nothing if one stands at an end or next to another. -/
def withoutUnderscores? (s : Text) : Option Text :=
  if s.head? = some '_' || s.getLast? = some '_' || Text.mentions ['_', '_'] s then none
  else some (s.filter (· != '_'))

/-- The number that a text of data denotes. White space may stand around it, or else underscores
anywhere inside it. -/
def Number.read? (s : Text) : Option Number :=
  match signedNumber? (Text.trimWhiteSpace s) with
  | some x => some x
  | none => (withoutUnderscores? s).bind signedNumber?

end LinearProgram
