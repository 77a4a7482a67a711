import LinearProgram.Text.Ranges

/-!
# Line breaks

Files write the end of a line in three ways: as a line feed, as a carriage return, or as both. A
text that comes from a file has line feeds only.
-/

namespace LinearProgram

/-- The text with every line break written as a line feed. -/
def unifyBreaks : Text → Text
  | [] => []
  | '\r' :: '\n' :: s => '\n' :: unifyBreaks s
  | c :: s => (if c = '\r' then '\n' else c) :: unifyBreaks s

end LinearProgram
