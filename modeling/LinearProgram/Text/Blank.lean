import LinearProgram.Text.Ranges

/-!
# Blanks

Statements may be spaced and broken into lines freely, so nearly every reader begins by removing
blanks. The blanks are the characters of Unicode's White_Space property (`isWhiteSpace`) and the
four information separators U+001C to U+001F.
-/

namespace LinearProgram

/-- The code points of white space. -/
def whiteSpaceRanges : List (Nat × Nat) :=
  [(0x09, 0x0D), (0x20, 0x20), (0x85, 0x85), (0xA0, 0xA0), (0x1680, 0x1680), (0x2000, 0x200A),
   (0x2028, 0x2029), (0x202F, 0x202F), (0x205F, 0x205F), (0x3000, 0x3000)]

/-- White space: spaces, tabs and line breaks. -/
def isWhiteSpace (c : Char) : Bool := Text.inRanges whiteSpaceRanges c.toNat

/-- Information separators. -/
def isSeparator (c : Char) : Bool := 0x1C ≤ c.toNat && c.toNat ≤ 0x1F

/-- Blanks: white space and separators. -/
def isBlank (c : Char) : Bool := isWhiteSpace c || isSeparator c

namespace Text

/-- The text without its leading blanks. -/
def trimStart (s : Text) : Text := s.dropWhile isBlank

/-- The text without its trailing blanks. -/
def trimEnd (s : Text) : Text := (s.reverse.dropWhile isBlank).reverse

/-- The text without the blanks at its two ends. -/
def trim (s : Text) : Text := trimEnd (trimStart s)

/-- The text without the white space at its two ends. -/
def trimWhiteSpace (s : Text) : Text :=
  ((s.dropWhile isWhiteSpace).reverse.dropWhile isWhiteSpace).reverse

/-- The rest of a text that begins with the given characters. -/
def afterPrefix? : Text → Text → Option Text
  | [], s => some s
  | _ :: _, [] => none
  | p :: rest, c :: s => if p = c then afterPrefix? rest s else none

/-- The rest of a text after its leading blanks, of which there has to be one at least. -/
def afterBlanks? : Text → Option Text
  | [] => none
  | c :: s => if isBlank c then some (trimStart s) else none

/-- Whether `word` occurs somewhere in the text. -/
def mentions (word : Text) : Text → Bool
  | [] => word.isEmpty
  | c :: s => word.isPrefixOf (c :: s) || mentions word s

@[simp] theorem trimStart_nil : trimStart [] = [] := rfl

@[simp] theorem trim_nil : trim [] = [] := rfl

/-- What follows a recognised beginning is the text without that beginning. -/
theorem afterPrefix?_eq_some_iff {p s rest : Text} :
    afterPrefix? p s = some rest ↔ s = p ++ rest := by
  induction p generalizing s with
  | nil => simp [afterPrefix?]
  | cons c p ih =>
    cases s with
    | nil => simp [afterPrefix?]
    | cons d s =>
      by_cases hcd : c = d
      · simp [afterPrefix?, hcd, ih]
      · simp [afterPrefix?, hcd, Ne.symm hcd]

end Text

end LinearProgram
