import LinearProgram.Display.Argument.Reader

/-!
# Functions without names

A word, the parameters, a colon, and the expression that is the result. Parameters stand between
commas. Those with default values come after those without, a slash ends the ones that are given
by position only, and after a star they are given by name only. Two stars stand before the last
one, which takes all other values with names.
-/

namespace LinearProgram

namespace Argument

namespace Reader

variable (read : Phrase → Reader Expression)

/-! ## Single parameters -/

/-- The end of a parameter: a comma, or the colon behind the last one, which is left. -/
def parameterEnd : Reader Unit := symbol "," <|> ahead (symbol ":")

/-- A default value. -/
def defaultValue : Reader Unit :=
  (do
    symbol "="
    let _ ← read .expression) <|>
  mistake (do
    symbol "="
    ahead (oneOf [")", ","])
    fail .missingDefault)

/-- A parameter without a default value. -/
def plainParameter : Reader Unit := do
  let _ ← name
  parameterEnd

/-- A parameter with a default value. -/
def defaultParameter : Reader Unit := do
  let _ ← name
  defaultValue read
  parameterEnd

/-- A parameter, perhaps with a default value. -/
def anyParameter : Reader Unit := do
  let _ ← name
  let _ ← optional (defaultValue read)
  parameterEnd

/-! ## Lists of parameters -/

/-- Parameters without default values up to a slash. -/
def plainToSlash : Reader Unit := do
  let _ ← several plainParameter
  symbol "/"
  parameterEnd

/-- Parameters up to a slash, the last of which have default values. -/
def defaultToSlash : Reader Unit := do
  let _ ← many plainParameter
  let _ ← several (defaultParameter read)
  symbol "/"
  parameterEnd

/-- The parameter for other values with names, with a default value or with something after it. -/
def wrongNamedRest : Reader Unit :=
  (do
    symbol "**"
    let _ ← name
    symbol "="
    fail .defaultOfNamedRest) <|>
  (do
    symbol "**"
    let _ ← name
    symbol ","
    let _ ← name
    fail .afterNamedRest) <|>
  (do
    symbol "**"
    let _ ← name
    symbol ","
    let _ ← oneOf ["*", "**", "/"]
    fail .afterNamedRest)

/-- The parameter for other values with names. -/
def namedRest : Reader Unit :=
  mistake wrongNamedRest <|>
  (do
    symbol "**"
    plainParameter)

/-- A star with nothing that it could stand for, with a default value, or repeated. -/
def wrongRest : Reader Unit :=
  (do
    symbol "*"
    symbol ":" <|> (do symbol ","; symbol ":" <|> symbol "**")
    fail .nothingAfterStar) <|>
  (do
    symbol "*"
    let _ ← name
    symbol "="
    fail .defaultOfRest) <|>
  (do
    symbol "*"
    plainParameter <|> symbol ","
    let _ ← many (anyParameter read)
    symbol "*"
    plainParameter <|> symbol ","
    fail .repeatedStar)

/-- A star, and the parameters that are given by name only. -/
def rest : Reader Unit :=
  mistake (wrongRest read) <|>
  (do
    symbol "*"
    plainParameter
    let _ ← many (anyParameter read)
    let _ ← optional namedRest) <|>
  (do
    symbol "*"
    symbol ","
    let _ ← several (anyParameter read)
    let _ ← optional namedRest) <|>
  namedRest

/-- Parameters in a wrong order. -/
def wrongParameters : Reader Unit :=
  (do
    let _ ← many plainParameter
    defaultToSlash read <|> (do let _ ← several (defaultParameter read))
    plainParameter
    fail .defaultNeeded) <|>
  (do
    let _ ← many plainParameter
    symbol "("
    let _ ← separated name (symbol ",")
    let _ ← optional (symbol ",")
    symbol ")"
    fail .parenthesizedParameters) <|>
  (do
    symbol "/"
    symbol ","
    fail .emptyBeforeSlash) <|>
  (do
    plainToSlash <|> defaultToSlash read
    let _ ← many (anyParameter read)
    symbol "/"
    fail .repeatedSlash) <|>
  (do
    let _ ← optional (plainToSlash <|> defaultToSlash read)
    let _ ← many (anyParameter read)
    symbol "*"
    symbol "," <|> plainParameter
    let _ ← many (anyParameter read)
    symbol "/"
    fail .slashAfterStar) <|>
  (do
    let _ ← several (anyParameter read)
    symbol "/"
    symbol "*"
    fail .slashBeforeStar)

/-- Parameters. -/
def parameters : Reader Unit :=
  mistake (wrongParameters read) <|>
  (do
    plainToSlash
    let _ ← many plainParameter
    let _ ← many (defaultParameter read)
    let _ ← optional (rest read)) <|>
  (do
    defaultToSlash read
    let _ ← many (defaultParameter read)
    let _ ← optional (rest read)) <|>
  (do
    let _ ← several plainParameter
    let _ ← many (defaultParameter read)
    let _ ← optional (rest read)) <|>
  (do
    let _ ← several (defaultParameter read)
    let _ ← optional (rest read)) <|>
  rest read

/-- A function. -/
def function : Reader Expression := do
  word "lambda"
  let _ ← optional (parameters read)
  symbol ":"
  let _ ← read .expression
  pure .function

end Reader

end Argument

end LinearProgram
