import LinearProgram.Display.Argument.Fault
import LinearProgram.Text.CharacterName

/-!
# Escapes in strings

A backslash in a string begins an escape, unless the string is raw. Escapes by number have as many
hexadecimal digits as their letter asks for, and an escape by name has the name of a character in
braces. All other escapes are right, whatever follows the backslash.

**Positions.** A fault tells where the escape begins and ends in a form of the string that is
written with the characters of ASCII (`spelled`). Strings of bytes have escapes with two
hexadecimal digits only, and hold no other characters than these.
-/

namespace LinearProgram

namespace Argument

/-- Whether a character belongs to ASCII. -/
def isAscii (c : Char) : Bool := c.toNat < 128

/-- A character that does not belong to ASCII, as an escape by number. -/
def numbered (c : Char) : Text := '\\' :: 'U' :: hexadecimal 8 c.toNat

/-- A backslash that escapes nothing, as an escape by number. -/
def numberedBackslash : Text := ['\\', 'u', '0', '0', '5', 'c']

/-- A string in which all other characters than those of ASCII are escapes, and the backslashes
before these too. -/
def spelled : Text → Text
  | [] => []
  | [c] => if c = '\\' then numberedBackslash else if isAscii c then [c] else numbered c
  | c :: d :: s =>
    if c = '\\' then
      if isAscii d then c :: d :: spelled s else numberedBackslash ++ numbered d ++ spelled s
    else (if isAscii c then [c] else numbered c) ++ spelled (d :: s)

/-- How many hexadecimal digits a letter asks for. -/
def digitsAfter? (letter : Char) : Option Nat :=
  if letter = 'x' then some 2
  else if letter = 'u' then some 4
  else if letter = 'U' then some 8
  else none

/-- What is wrong with an escape by number, whose digits are at the beginning of the text, and how
many of them are right. -/
def numberFault? (letter : Char) (count : Nat) (s : Text) : Option (Nat × EscapeFault) :=
  let digits := (s.take count).takeWhile fun c => (hexValue? c).isSome
  if digits.length < count then some (digits.length, .truncated letter)
  else if 0x10FFFF < hexNumber digits then some (count, .noCodePoint)
  else none

/-- What is wrong with an escape by name, whose name in braces is at the beginning of the text, and
how many characters belong to it. -/
def nameFault? : Text → Option (Nat × EscapeFault)
  | [] => some (0, .noName)
  | c :: s =>
    if c = '\x7b' then
      let name := s.takeWhile (· != '\x7d')
      if name.length = s.length then some (s.length + 1, .noName)
      else if name.isEmpty then some (1, .noName)
      else if isCharacterName name then none
      else some (name.length + 2, .unknownName)
    else some (0, .noName)

/-- The fault in an escape that begins at the given position, of which the letter and what follows
it are given. -/
def escapeFaultAt? (position : Nat) (letter : Char) (s : Text) : Option Fault :=
  let found := match digitsAfter? letter with
    | some count => numberFault? letter count s
    | none => if letter = 'N' then nameFault? s else none
  found.map fun (count, why) => .badEscape position (position + 1 + count) why

/-- The fault in the escapes of a text that stands at the given position. -/
def escapeFaultFrom? : Nat → Text → Option Fault
  | _, [] => none
  | _, [_] => none
  | position, c :: d :: s =>
    if c = '\\' then (escapeFaultAt? position d s).or (escapeFaultFrom? (position + 2) s)
    else escapeFaultFrom? (position + 1) (d :: s)

/-- The fault in the escapes of a string. -/
def escapeFault? (s : Text) : Option Fault := escapeFaultFrom? 0 (spelled s)

/-- The fault in the escapes of a string of bytes that stands at the given position. -/
def byteFaultFrom? : Nat → Text → Option Fault
  | _, [] => none
  | _, [_] => none
  | position, c :: d :: s =>
    if c = '\\' then
      if d = 'x' && (numberFault? d 2 s).isSome then some (.badByteEscape position)
      else byteFaultFrom? (position + 2) s
    else byteFaultFrom? (position + 1) (d :: s)

/-- The fault in a string of bytes. -/
def bytesFault? (raw : Bool) (s : Text) : Option Fault :=
  if !s.all isAscii then some .wideByte
  else if raw then none
  else byteFaultFrom? 0 s

end Argument

end LinearProgram
