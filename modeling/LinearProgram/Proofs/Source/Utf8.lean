import Mathlib.Data.List.Basic
import LinearProgram.Source.Utf8

/-!
# Decoding what has been encoded

The bytes of a text are those of its characters, one after the other (`Utf8.encode`). Decoding them
gives the text again (`Utf8.decode_encode`).

The decoder takes the bytes of a character one at a time. What it holds between them has to be
followed for each length: the lead byte begins a character (`begun?_two`, `begun?_three`,
`begun?_four`), and each of the other bytes continues it (`decodeFrom_continue`,
`decodeFrom_complete`). In which range the second byte has to lie depends on the lead byte. That it
lies there says that no shorter encoding would do, that the character is no surrogate, and that
there are no characters beyond U+10FFFF.
-/

namespace LinearProgram

namespace Utf8

/-- The bytes of a text. -/
def encode (text : Text) : List UInt8 := text.flatMap String.utf8EncodeChar

/-! ## Lead bytes -/

variable {position v : Nat}

theorem begun?_two (position : Nat) (h : 0x80 ≤ v) (h' : v ≤ 0x7FF) :
    begun? position (v / 64 + 0xC0) =
      some ⟨position, 1, v / 64 + 0xC0, v / 64, 1, 0x80, 0xBF⟩ := by
  have hlead : 0xC2 ≤ v / 64 + 0xC0 ∧ v / 64 + 0xC0 ≤ 0xDF := by omega
  rw [begun?, if_pos hlead, Nat.add_sub_cancel]

/-- The second byte lies in the range that the lead byte leaves to it. -/
theorem begun?_three (position : Nat) (h : 0x800 ≤ v) (h' : v ≤ 0xFFFF)
    (hv : v < 0xD800 ∨ 0xDFFF < v) :
    ∃ low high, begun? position (v / 4096 + 0xE0) =
        some ⟨position, 1, v / 4096 + 0xE0, v / 4096, 2, low, high⟩ ∧
      low ≤ v / 64 % 64 + 0x80 ∧ v / 64 % 64 + 0x80 ≤ high := by
  have htwo : ¬(0xC2 ≤ v / 4096 + 0xE0 ∧ v / 4096 + 0xE0 ≤ 0xDF) := by omega
  rw [begun?, if_neg htwo]
  by_cases hE0 : v / 4096 = 0
  · exact ⟨0xA0, 0xBF, by simp [hE0], by omega, by omega⟩
  · rw [if_neg (by omega)]
    by_cases hED : v / 4096 = 0xD
    · exact ⟨0x80, 0x9F, by simp [hED], by omega, by omega⟩
    · refine ⟨0x80, 0xBF, ?_, by omega, by omega⟩
      rw [if_neg (by omega), if_pos (by omega), Nat.add_sub_cancel]

theorem begun?_four (position : Nat) (h : 0x10000 ≤ v) (h' : v < 0x110000) :
    ∃ low high, begun? position (v / 262144 + 0xF0) =
        some ⟨position, 1, v / 262144 + 0xF0, v / 262144, 3, low, high⟩ ∧
      low ≤ v / 4096 % 64 + 0x80 ∧ v / 4096 % 64 + 0x80 ≤ high := by
  have hshorter : ¬(0xC2 ≤ v / 262144 + 0xF0 ∧ v / 262144 + 0xF0 ≤ 0xDF) ∧
      ¬v / 262144 + 0xF0 = 0xE0 ∧ ¬v / 262144 + 0xF0 = 0xED ∧
      ¬(0xE1 ≤ v / 262144 + 0xF0 ∧ v / 262144 + 0xF0 ≤ 0xEF) := by omega
  obtain ⟨hC2, hE0, hED, hE1⟩ := hshorter
  rw [begun?, if_neg hC2, if_neg hE0, if_neg hED, if_neg hE1]
  by_cases hF0 : v / 262144 = 0
  · exact ⟨0x90, 0xBF, by simp [hF0], by omega, by omega⟩
  · rw [if_neg (by omega)]
    by_cases hF4 : v / 262144 = 4
    · exact ⟨0x80, 0x8F, by simp [hF4], by omega, by omega⟩
    · refine ⟨0x80, 0xBF, ?_, by omega, by omega⟩
      rw [if_pos (by omega), Nat.add_sub_cancel]

/-! ## Bytes one at a time -/

theorem decodeFrom_single (h : v < 0x80) (rest : List UInt8) :
    decodeFrom position none (UInt8.ofNat v :: rest) =
      emit v (decodeFrom (position + 1) none rest) := by
  rw [decodeFrom, UInt8.toNat_ofNat_of_lt' (show v < 256 by omega), if_pos h]

theorem decodeFrom_lead {lead : Nat} {held : Partial} (hlow : 0x80 ≤ lead) (hhigh : lead < 256)
    (h : begun? position lead = some held) (rest : List UInt8) :
    decodeFrom position none (UInt8.ofNat lead :: rest) =
      decodeFrom (position + 1) (some held) rest := by
  rw [decodeFrom, UInt8.toNat_ofNat_of_lt' hhigh, if_neg (by omega), h]

/-- A byte after which the character needs another one. -/
theorem decodeFrom_continue {start length lead value needed low high n : Nat} (hn : n < 64)
    (hlow : low ≤ n + 0x80) (hhigh : n + 0x80 ≤ high) (rest : List UInt8) :
    decodeFrom position (some ⟨start, length, lead, value, needed + 2, low, high⟩)
        (UInt8.ofNat (n + 0x80) :: rest) =
      decodeFrom (position + 1)
        (some ⟨start, length + 1, lead, value * 64 + n, needed + 1, 0x80, 0xBF⟩) rest := by
  rw [decodeFrom, UInt8.toNat_ofNat_of_lt' (show n + 0x80 < 256 by omega)]
  simp [hlow, hhigh, Partial.continued]

/-- The last byte of a character. -/
theorem decodeFrom_complete {start length lead value low high n : Nat} (hn : n < 64)
    (hlow : low ≤ n + 0x80) (hhigh : n + 0x80 ≤ high) (rest : List UInt8) :
    decodeFrom position (some ⟨start, length, lead, value, 1, low, high⟩)
        (UInt8.ofNat (n + 0x80) :: rest) =
      emit (value * 64 + n) (decodeFrom (position + 1) none rest) := by
  rw [decodeFrom, UInt8.toNat_ofNat_of_lt' (show n + 0x80 < 256 by omega)]
  simp [hlow, hhigh, Partial.continued]

/-! ## Characters and texts -/

/-- **The bytes of one character** are decoded as the character. -/
theorem exists_decodeFrom_utf8EncodeChar (position : Nat) (c : Char) (rest : List UInt8) :
    ∃ next, decodeFrom position none (String.utf8EncodeChar c ++ rest) =
      emit c.toNat (decodeFrom next none rest) := by
  have hvalid : c.toNat < 0xD800 ∨ 0xDFFF < c.toNat ∧ c.toNat < 0x110000 := c.valid
  have hlow {n : Nat} : 0x80 ≤ n % 64 + 0x80 := by omega
  have hhigh {n : Nat} : n % 64 + 0x80 ≤ 0xBF := by omega
  rw [String.utf8EncodeChar, show c.val.toNat = c.toNat from rfl]
  generalize c.toNat = v at hvalid
  split
  · rename_i h
    exact ⟨position + 1, decodeFrom_single (by omega) rest⟩
  · split
    · rename_i h h'
      have hlead : v / 64 % 32 = v / 64 := by omega
      have hvalue : v / 64 * 64 + v % 64 = v := by omega
      rw [hlead, List.cons_append, List.singleton_append,
        decodeFrom_lead (by omega) (by omega) (begun?_two position (by omega) h'),
        decodeFrom_complete (Nat.mod_lt v (by decide)) hlow hhigh, hvalue]
      exact ⟨_, rfl⟩
    · split
      · rename_i h h' h''
        obtain ⟨low, high, hbegun, hfirst, hlast⟩ :=
          begun?_three position (v := v) (by omega) h'' (by omega)
        have hlead : v / 4096 % 16 = v / 4096 := by omega
        have hvalue : (v / 4096 * 64 + v / 64 % 64) * 64 + v % 64 = v := by omega
        rw [hlead, List.cons_append, List.cons_append, List.singleton_append,
          decodeFrom_lead (by omega) (by omega) hbegun,
          decodeFrom_continue (Nat.mod_lt _ (by decide)) hfirst hlast,
          decodeFrom_complete (Nat.mod_lt v (by decide)) hlow hhigh, hvalue]
        exact ⟨_, rfl⟩
      · rename_i h h' h''
        obtain ⟨low, high, hbegun, hfirst, hlast⟩ :=
          begun?_four position (v := v) (by omega) (by omega)
        have hlead : v / 262144 % 8 = v / 262144 := by omega
        have hvalue : ((v / 262144 * 64 + v / 4096 % 64) * 64 + v / 64 % 64) * 64 + v % 64 = v := by
          omega
        rw [hlead, List.cons_append, List.cons_append, List.cons_append, List.singleton_append,
          decodeFrom_lead (by omega) (by omega) hbegun,
          decodeFrom_continue (Nat.mod_lt _ (by decide)) hfirst hlast,
          decodeFrom_continue (Nat.mod_lt _ (by decide)) hlow hhigh,
          decodeFrom_complete (Nat.mod_lt v (by decide)) hlow hhigh, hvalue]
        exact ⟨_, rfl⟩

theorem decodeFrom_encode (position : Nat) (text : Text) :
    decodeFrom position none (encode text) = .ok text := by
  induction text generalizing position with
  | nil => rfl
  | cons c text ih =>
    obtain ⟨next, hnext⟩ := exists_decodeFrom_utf8EncodeChar position c (encode text)
    rw [encode, List.flatMap_cons, ← encode, hnext, ih, emit, Char.ofNat_toNat]

/-- **Decoding undoes encoding.** -/
theorem decode_encode (text : Text) : decode (encode text) = .ok text := decodeFrom_encode 0 text

end Utf8

end LinearProgram
