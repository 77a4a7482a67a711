import LinearProgram.Display.Emoji
import LinearProgram.Display.Table
import LinearProgram.Proofs.Display.Screen

/-!
# Consoles

A console knows emojis by their names and lays out what is printed on it. How wide it is, where it
breaks a line that is too long for it, and how it fits a table into its width is its own affair
(`Console`). But text that stands on lines of its own is laid out on its own, and the signs that
can be seen wherever they stand are neither lost nor added nor moved past each other, as long as a
line has room for any character. What else there is, blanks and characters without a width above
all, may change at the edge of a line.

`Console.wide` is a console on which everything has room. It knows no emojis.
-/

namespace LinearProgram

/-- A console: its emojis, the lines of a text that is printed on it, and those of a table. -/
structure Console where
  emojis : Emoji.Names
  lines : Text → List Text
  tableLines : Table → List Text
  /-- No emoji has a colon in it. -/
  colonless : emojis.Colonless
  /-- Nothing but an empty line is printed of an empty text. -/
  lines_nil : lines [] = [[]]
  /-- A line break ends a line. -/
  lines_append_cons : ∀ s t, lines (s ++ '\n' :: t) = lines s ++ lines t
  /-- The signs of a text that can be seen are printed in their order. -/
  filter_lines : ∀ s, (lines s).flatten.filter Screen.isVisible = s.filter Screen.isVisible
  /-- A text that begins with such a sign does not begin with an empty line. -/
  head?_lines_ne : ∀ {c}, Screen.isVisible c = true → ∀ s, (lines (c :: s)).head? ≠ some []

/-- A console without emojis that is wider than anything that is printed. -/
def Console.wide : Console where
  emojis _ := none
  lines := Screen.lines
  tableLines := Table.lines
  colonless _ _ h := by simp at h
  lines_nil := rfl
  lines_append_cons := Screen.lines_append_cons
  filter_lines := Screen.filter_lines
  head?_lines_ne := Screen.head?_lines_ne

end LinearProgram
