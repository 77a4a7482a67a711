import LinearProgram.Number.Notation

/-!
# Structured data

Models can also be made from data that another program has written down: nested records, lists and
simple values, of which nothing is known in advance. Integers are kept apart from other numbers,
because they may be greater than any number of double precision.
-/

namespace LinearProgram

/-- A piece of structured data. -/
inductive Datum where
  | null
  | bool (value : Bool)
  | integer (value : Int)
  | number (value : Number)
  | text (value : Text)
  | list (items : List Datum)
  | record (fields : List (Text × Datum))

instance : Inhabited Datum := ⟨.null⟩

/-- The value of a field. Where a name is given twice, the later value counts. -/
def Datum.field? (fields : List (Text × Datum)) (name : Text) : Option Datum :=
  (fields.reverse.find? (·.1 == name)).map (·.2)

end LinearProgram
