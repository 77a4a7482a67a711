import LinearProgram.Display.Argument.Element

/-!
# What is given to functions

Positional values come first, and starred ones may stand among them; then come values with names,
and dictionaries after two stars. A single series needs no parentheses of its own.
-/

namespace LinearProgram

namespace Argument

/-- Something that is given to a function. -/
inductive Input where
  | positional
  | named
  /-- Values with names that are unpacked from a dictionary. -/
  | unpacked
  deriving DecidableEq

namespace Reader

variable (read : Phrase → Reader Expression)

/-- A value with a name that is given wrongly. -/
def wrongNamedInput : Reader Input :=
  (do
    let letters ← oneWordOf constants
    symbol "="
    fail (.assignmentTo (String.ofList letters))) <|>
  (do
    let _ ← name
    symbol "="
    let _ ← read .expression
    clauses read
    fail .assignment) <|>
  (do
    notAhead (do let _ ← name; symbol "=")
    let _ ← read .expression
    symbol "="
    fail .equalityMeant)

/-- A value with a name. -/
def namedInput : Reader Input :=
  mistake (wrongNamedInput read) <|>
  (do
    let _ ← name
    symbol "="
    let _ ← read .expression
    pure .named)

/-- A value with a name, or a starred value. -/
def namedOrStarred : Reader Input :=
  namedInput read <|>
  (do
    let _ ← starred read
    pure .positional)

/-- A value with a name, or a dictionary of them. -/
def namedOrUnpacked : Reader Input :=
  namedInput read <|>
  (do
    symbol "**"
    let _ ← read .expression
    pure .unpacked)

/-- Values with names and what may stand among them. -/
def namedInputs : Reader (List Input) :=
  (do
    let first ← separated (namedOrStarred read) comma
    comma
    let others ← separated (namedOrUnpacked read) comma
    pure (first ++ others)) <|>
  separated (namedOrStarred read) comma <|>
  separated (namedOrUnpacked read) comma

/-- A value without a name. -/
def positionalInput : Reader Input :=
  (do
    let _ ← starred read
    pure .positional) <|>
  (do
    let _ ← binding read <|> unbound read
    notAhead (symbol "=")
    pure .positional)

/-- All that is given to a function, in the right order. -/
def inputs : Reader (List Input) :=
  (do
    let first ← separated (positionalInput read) comma
    let others ← optional (do comma; namedInputs read)
    pure (first ++ others.getD [])) <|>
  namedInputs read

/-- A series without parentheses. -/
def bareSeries : Reader Unit := do
  let _ ← read .expression
  clauses read

/-- What is given to a function in a wrong order or form. -/
def wrongInputs : Reader Expression :=
  (do
    let _ ← inputs read
    comma
    let _ ← separated (do let _ ← starred read; notAhead (symbol "=")) comma
    fail .unpackingAfterNamed) <|>
  (do
    bareSeries read
    comma
    let _ ← optional ((do let _ ← inputs read) <|> bareSeries read)
    fail .bareGenerator) <|>
  (do
    let _ ← name
    symbol "="
    bareSeries read
    fail .assignment) <|>
  (do
    let given ← optional (do
      let list ← inputs read
      clauses read
      pure list)
    match given with
    | some list => if list.count .positional ≤ 1 then miss else fail .bareGenerator
    | none =>
      (do
        let _ ← inputs read
        comma
        bareSeries read
        fail .bareGenerator) <|>
      (do
        let list ← inputs read
        comma
        let _ ← inputs read
        fail (if list.contains .unpacked then .positionalAfterUnpacking else
          .positionalAfterNamed)))

/-- What is given to a function, up to the closing parenthesis. -/
def arguments : Reader Expression :=
  (do
    let _ ← inputs read
    let _ ← optional comma
    ahead (symbol ")")
    pure .call) <|>
  mistake (wrongInputs read)

end Reader

end Argument

end LinearProgram
