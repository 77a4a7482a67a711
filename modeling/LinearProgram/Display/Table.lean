import LinearProgram.Text.Width

/-!
# Tables

A table has a title, columns with a heading each, and rows. A column is as wide as its widest cell
or heading, with a blank on both sides; the lines around the headings are heavy. The title stands in
the middle above, on several lines if it is wider than the table.
-/

namespace LinearProgram

namespace Table

/-- Where a text stands in its column. -/
inductive Alignment where
  | left
  | center
  | right
  deriving DecidableEq

/-- A column: its heading, and where heading and cells stand. -/
structure Column where
  heading : Text
  alignment : Alignment := .left

end Table

/-- A table. Every row has one cell per column. -/
structure Table where
  title : Text
  columns : List Table.Column
  rows : List (List Text)

namespace Table

/-- The text in a field of the given width. Of an odd number of blanks around a centered text the
last goes to the right. -/
def Alignment.place (alignment : Alignment) (width : Nat) (s : Text) : Text :=
  let free := width - Text.width s
  match alignment with
  | .left => s ++ List.replicate free ' '
  | .right => List.replicate free ' ' ++ s
  | .center => List.replicate (free / 2) ' ' ++ s ++ List.replicate (free - free / 2) ' '

/-- The widths of the columns. -/
def widths (t : Table) : List Nat :=
  t.columns.mapIdx fun j column =>
    (t.rows.map fun row => Text.width (row.getD j [])).foldl max (Text.width column.heading)

/-- The width of the whole table: two blanks and a line per column, and the first line. -/
def totalWidth (t : Table) : Nat := t.widths.foldl (fun total w => total + w + 3) 1

/-- A line of the frame. -/
def rule (first fill joint last : Char) (widths : List Nat) : Text :=
  first :: ([joint].intercalate (widths.map fun w => List.replicate (w + 2) fill) ++ [last])

/-- A line of cells. -/
def cells (bar : Char) (t : Table) (texts : List Text) : Text :=
  let placed := List.zipWith (fun (column : Column × Nat) s =>
    ' ' :: (column.1.alignment.place column.2 s ++ [' '])) (t.columns.zip t.widths) texts
  bar :: ([bar].intercalate placed ++ [bar])

/-- Distributes words over lines of at most the given width, with the line begun so far. -/
def fillLines (width : Nat) : Text → List Text → List Text
  | line, [] => [line]
  | line, word :: rest =>
    let longer := if line.isEmpty then word else line ++ ' ' :: word
    if line.isEmpty || Text.width longer ≤ width then fillLines width longer rest
    else line :: fillLines width word rest

/-- The lines of the title. -/
def titleLines (t : Table) : List Text :=
  (fillLines t.totalWidth [] (t.title.splitOn ' ')).map (Alignment.center.place t.totalWidth)

/-- The lines of the table. -/
def lines (t : Table) : List Text :=
  t.titleLines ++
    [rule '┏' '━' '┳' '┓' t.widths, t.cells '┃' (t.columns.map (·.heading)),
      rule '┡' '━' '╇' '┩' t.widths] ++
    t.rows.map (cells '│' t) ++
    [rule '└' '─' '┴' '┘' t.widths]

end Table

end LinearProgram
