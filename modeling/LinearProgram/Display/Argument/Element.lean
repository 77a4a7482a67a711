import LinearProgram.Display.Argument.Reader

/-!
# Elements of lists and their clauses

What stands between commas and in parentheses: expressions, expressions with a name that they are
bound to, and starred ones. After an element there may be clauses that make a series of it, each
with targets, with what they run through, and with conditions.

The readers of the phrases that are remembered are given to all readers as one function `read`.
-/

namespace LinearProgram

namespace Argument

namespace Reader

variable (read : Phrase → Reader Expression)

/-- Finds a comma. -/
def comma : Reader Unit := symbol ","

/-- One element, or a tuple of several of them without brackets. A comma may follow the last one and
makes a tuple of a single one. -/
def listed (element : Reader Expression) : Reader Expression := do
  let first ← element
  let others ← many (do comma; element)
  let trailing ← optional comma
  pure (if others.isEmpty && trailing.isNone then first else .tuple (first :: others))

/-- Expressions of which some may be starred. -/
def starExpressions : Reader Expression := listed (read .starExpression)

/-- An expression with a name that it is bound to. -/
def binding : Reader Expression := do
  let _ ← name
  symbol ":="
  let _ ← read .expression
  pure .binding

/-- An expression that is not bound to anything. -/
def unbound : Reader Expression := do
  let e ← read .expression
  notAhead (symbol ":=")
  pure e

/-- An expression, perhaps with a name that it is bound to. -/
def named : Reader Expression := binding read <|> mistake (read .wrongBinding) <|> unbound read

/-- An operand after a star. -/
def starredOperand : Reader Expression := do
  symbol "*"
  let e ← read .bitwiseOr
  pure (.starred e)

/-- An expression after a star, which must not stand alone. -/
def starred : Reader Expression :=
  (do
    symbol "*"
    let e ← read .expression
    pure (.starred e)) <|>
  (do
    symbol "*"
    fail .emptyStar)

/-- An element of a tuple or a set. -/
def element : Reader Expression := starredOperand read <|> named read

/-- Elements of a tuple or a set, one at least. -/
def elements : Reader (List Expression) := do
  let list ← separated (element read) comma
  let _ ← optional comma
  pure list

/-! ## Targets -/

/-- A target: an attribute or a name, perhaps in parentheses, or a tuple of targets there. -/
def simpleTarget : Reader Expression :=
  (do
    let _ ← read .targetBeginning
    symbol "."
    let _ ← name
    notAhead (oneOf ["(", "[", "."])
    pure .attribute) <|>
  (.name <$> name) <|>
  (do
    symbol "("
    let e ← read .simpleTarget
    symbol ")"
    pure e) <|>
  (do
    symbol "("
    let list ← optional (
      (do
        let first ← read .target
        let others ← several (do comma; read .target)
        let _ ← optional comma
        pure (first :: others)) <|>
      (do
        let only ← read .target
        comma
        pure [only]))
    symbol ")"
    pure (.tuple (list.getD [])))

/-- A target, perhaps starred. -/
def target : Reader Expression :=
  (do
    symbol "*"
    notAhead (symbol "*")
    read .target) <|>
  read .simpleTarget

/-- Targets without parentheses around them. -/
def targets : Reader Unit :=
  (do
    let _ ← read .target
    notAhead comma) <|>
  (do
    let _ ← separated (read .target) comma
    let _ ← optional comma)

/-! ## Clauses -/

/-- Something else where targets should stand. -/
def wrongTargets : Reader Unit := do
  let _ ← optional (word "async")
  word "for"
  let e ← starExpressions read
  match e.unassignable? with
  | some part => fail (.assignmentTo part.title)
  | none => miss

/-- A clause that runs through something, with conditions. -/
def clause : Reader Unit := do
  let beginning ← optional (do
    let _ ← optional (word "async")
    word "for"
    targets read
    word "in")
  match beginning with
  | some _ =>
    let _ ← read .disjunction
    let _ ← many (do word "if"; read .disjunction)
  | none => mistake (wrongTargets read)

/-- Clauses, one at least. -/
def clauses : Reader Unit := do
  let _ ← several (clause read)

end Reader

end Argument

end LinearProgram
