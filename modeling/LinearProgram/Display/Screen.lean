import LinearProgram.Text.Blank
import LinearProgram.Text.Width

/-!
# Lines on the screen

What a text looks like when it is printed: some control characters are left out, the text is cut
into lines, and tabs are filled up with spaces to the next multiple of eight cells.
-/

namespace LinearProgram

namespace Screen

/-- Control characters that are not printed: bell, backspace, vertical tab, form feed and carriage
return. -/
def isSilent (c : Char) : Bool := [7, 8, 11, 12, 13].contains c.toNat

/-- The signs of ASCII, which take a cell of their own wherever they are printed. -/
def isVisible (c : Char) : Bool := 0x21 ≤ c.toNat && c.toNat ≤ 0x7E

/-- Joins what stands between tabs, from the given column on. A tab is a space, and as many more as
lead to the next multiple of eight. -/
def joinParts : Nat → List Text → Text
  | _, [] => []
  | _, [part] => part
  | column, part :: rest =>
    let spaced := part ++ [' ']
    let reached := column + Text.width spaced
    let more := (8 - reached % 8) % 8
    spaced ++ List.replicate more ' ' ++ joinParts (reached + more) rest

/-- A line with its tabs filled up. -/
def expandTabs (line : Text) : Text := joinParts 0 (line.splitOn '\t')

/-- The lines of a printed text. -/
def lines (s : Text) : List Text :=
  ((s.filter fun c => !isSilent c).splitOn '\n').map expandTabs

end Screen

end LinearProgram
