import LinearProgram.Text.Quoted

/-!
# UTF-8

Decoding byte by byte. Between two characters nothing is held over; inside a character a `Partial`
holds what its bytes have given so far, how many more it needs, and in what range the next one has
to lie. The range is narrower than usual after some lead bytes, which excludes encodings that are
longer than necessary, surrogates, and everything beyond U+10FFFF.

A text that is no UTF-8 is refused at the start of the first character that cannot be completed.
-/

namespace LinearProgram

namespace Utf8

/-- Why a byte sequence is refused. -/
inductive Reason where
  | invalidStart
  | invalidContinuation
  | unexpectedEnd
  deriving DecidableEq

/-- The bytes that are no character, from `start` on, and why. The first of them is `lead`. -/
structure Fault where
  start : Nat
  length : Nat
  lead : Nat
  reason : Reason
  deriving DecidableEq

/-- A character that has been begun. -/
structure Partial where
  start : Nat
  length : Nat
  lead : Nat
  value : Nat
  needed : Nat
  low : Nat
  high : Nat

/-- The fault of a character that cannot be completed. -/
def Partial.fault (held : Partial) (reason : Reason) : Fault :=
  ⟨held.start, held.length, held.lead, reason⟩

/-- The character that a lead byte begins. -/
def begun? (start lead : Nat) : Option Partial :=
  if 0xC2 ≤ lead ∧ lead ≤ 0xDF then some ⟨start, 1, lead, lead - 0xC0, 1, 0x80, 0xBF⟩
  else if lead = 0xE0 then some ⟨start, 1, lead, 0, 2, 0xA0, 0xBF⟩
  else if lead = 0xED then some ⟨start, 1, lead, 0xD, 2, 0x80, 0x9F⟩
  else if 0xE1 ≤ lead ∧ lead ≤ 0xEF then some ⟨start, 1, lead, lead - 0xE0, 2, 0x80, 0xBF⟩
  else if lead = 0xF0 then some ⟨start, 1, lead, 0, 3, 0x90, 0xBF⟩
  else if 0xF1 ≤ lead ∧ lead ≤ 0xF3 then some ⟨start, 1, lead, lead - 0xF0, 3, 0x80, 0xBF⟩
  else if lead = 0xF4 then some ⟨start, 1, lead, 4, 3, 0x80, 0x8F⟩
  else none

/-- One more byte of a character that has been begun. -/
def Partial.continued (held : Partial) (byte : Nat) : Partial :=
  ⟨held.start, held.length + 1, held.lead, held.value * 64 + (byte - 0x80), held.needed - 1,
    0x80, 0xBF⟩

/-- Puts a character before the rest, if there is no fault in the rest. -/
def emit (n : Nat) : Except Fault Text → Except Fault Text
  | .ok rest => .ok (Char.ofNat n :: rest)
  | .error fault => .error fault

/-- Decodes the bytes from `position` on, with a character begun or not. -/
def decodeFrom : Nat → Option Partial → List UInt8 → Except Fault Text
  | _, none, [] => .ok []
  | _, some held, [] => .error (held.fault .unexpectedEnd)
  | position, none, byte :: rest =>
    if byte.toNat < 0x80 then emit byte.toNat (decodeFrom (position + 1) none rest)
    else match begun? position byte.toNat with
      | some held => decodeFrom (position + 1) (some held) rest
      | none => .error ⟨position, 1, byte.toNat, .invalidStart⟩
  | position, some held, byte :: rest =>
    if held.low ≤ byte.toNat ∧ byte.toNat ≤ held.high then
      let next := held.continued byte.toNat
      if next.needed = 0 then emit next.value (decodeFrom (position + 1) none rest)
      else decodeFrom (position + 1) (some next) rest
    else .error (held.fault .invalidContinuation)

/-- Decodes a sequence of bytes. -/
def decode (bytes : List UInt8) : Except Fault Text := decodeFrom 0 none bytes

/-- What a reason is called. -/
def Reason.message : Reason → String
  | .invalidStart => "invalid start byte"
  | .invalidContinuation => "invalid continuation byte"
  | .unexpectedEnd => "unexpected end of data"

/-- What is said of bytes that are no character: a single byte is shown, of several the positions
are given. -/
def Fault.message (fault : Fault) : String :=
  let bytes :=
    if fault.length ≤ 1 then
      "byte 0x" ++ String.ofList (hexadecimal 2 fault.lead) ++ " in position " ++
        toString fault.start
    else
      "bytes in position " ++ toString fault.start ++ "-" ++
        toString (fault.start + fault.length - 1)
  "'utf-8' codec can't decode " ++ bytes ++ ": " ++ fault.reason.message

end Utf8

end LinearProgram
