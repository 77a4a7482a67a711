import LinearProgram.Display.Argument.Element

/-!
# Expressions in brackets

Tuples and single expressions in parentheses, sets and dictionaries in braces, and the series that
clauses make of an element or of an entry.
-/

namespace LinearProgram

namespace Argument

namespace Reader

variable (read : Phrase → Reader Expression)

/-! ## Parentheses -/

/-- A tuple. -/
def tuple : Reader Expression := do
  symbol "("
  let items ← optional (do
    let first ← element read
    comma
    let others ← optional (elements read)
    pure (first :: others.getD []))
  symbol ")"
  pure (.tuple (items.getD []))

/-- An expression that hands out a value. -/
def yielding : Reader Expression :=
  (do
    word "yield"
    word "from"
    let _ ← read .expression
    pure .yielding) <|>
  (do
    word "yield"
    let _ ← optional (starExpressions read)
    pure .yielding)

/-- A starred expression alone in parentheses. -/
def wrongGroup : Reader Expression :=
  (do
    symbol "("
    let _ ← starred read
    symbol ")"
    fail .starred) <|>
  (do
    symbol "("
    symbol "**"
    let _ ← read .expression
    symbol ")"
    fail .doubleStarred)

/-- An expression in parentheses. -/
def group : Reader Expression :=
  (do
    symbol "("
    let e ← yielding read <|> named read
    symbol ")"
    pure e) <|>
  mistake (wrongGroup read)

/-! ## Series -/

/-- A series of elements that are unpacked or lack their parentheses. -/
def wrongSeries : Reader Expression :=
  (do
    let _ ← oneOf ["(", "\x7b"]
    let _ ← starred read
    clauses read
    fail .unpackingInside) <|>
  (do
    symbol "\x7b"
    let _ ← element read
    comma
    let _ ← elements read
    clauses read
    fail .bareTarget) <|>
  (do
    symbol "\x7b"
    let _ ← element read
    comma
    clauses read
    fail .bareTarget)

/-- A series of elements in parentheses. -/
def generator : Reader Expression :=
  (do
    symbol "("
    let _ ← binding read <|> unbound read
    clauses read
    symbol ")"
    pure .generator) <|>
  mistake (wrongSeries read)

/-- A series of members of a set. -/
def setComprehension : Reader Expression :=
  (do
    symbol "\x7b"
    let _ ← named read
    clauses read
    symbol "\x7d"
    pure .setComprehension) <|>
  mistake (wrongSeries read)

/-! ## Sets and dictionaries -/

/-- A set. -/
def set : Reader Expression := do
  symbol "\x7b"
  let members ← elements read
  symbol "\x7d"
  pure (.set members)

/-- A key and a value. -/
def keyAndValue : Reader (Expression × Expression) := do
  let key ← read .expression
  symbol ":"
  let value ← read .expression
  pure (key, value)

/-- An entry of a dictionary: a key and a value, or another dictionary after two stars. -/
def entry : Reader (Expression × Expression) :=
  (do
    symbol "**"
    let e ← read .bitwiseOr
    pure (.starred e, e)) <|>
  keyAndValue read

/-- A key with a value that is starred or missing. -/
def wrongValue : Reader Unit :=
  (do
    let _ ← read .expression
    symbol ":"
    symbol "*"
    let _ ← read .bitwiseOr
    fail .starredValue) <|>
  (do
    let _ ← read .expression
    symbol ":"
    ahead (oneOf ["\x7d", ","])
    fail .missingValue)

/-- A key without a colon, or with a wrong value. -/
def wrongEntry : Reader Unit :=
  (do
    let _ ← read .expression
    notAhead (symbol ":")
    fail .missingColon) <|>
  wrongValue read

/-- Entries, the last of which is wrong. -/
def wrongEntries : Reader Unit :=
  (do
    let _ ← separated (entry read) comma
    comma
    wrongEntry read) <|>
  wrongValue read

/-- A dictionary. -/
def dictionary : Reader Expression :=
  (do
    symbol "\x7b"
    let entries ← optional (do
      let list ← separated (entry read) comma
      let _ ← optional comma
      pure list)
    symbol "\x7d"
    pure (.dictionary ((entries.getD []).map (·.1)) ((entries.getD []).map (·.2)))) <|>
  (do
    symbol "\x7b"
    wrongEntries read
    symbol "\x7d"
    pure (.dictionary [] []))

/-- A series of entries that are unpacked. -/
def wrongEntrySeries : Reader Expression := do
  symbol "\x7b"
  symbol "**"
  let _ ← read .bitwiseOr
  clauses read
  symbol "\x7d"
  fail .doubleUnpackingInside

/-- A series of entries of a dictionary. -/
def dictionaryComprehension : Reader Expression :=
  (do
    symbol "\x7b"
    let _ ← keyAndValue read
    clauses read
    symbol "\x7d"
    pure .dictionaryComprehension) <|>
  mistake (wrongEntrySeries read)

end Reader

end Argument

end LinearProgram
