import LinearProgram.Display.Argument.Bracket
import LinearProgram.Display.Argument.Call
import LinearProgram.Display.Argument.Function
import LinearProgram.Display.Argument.Insertion

/-!
# Operands, operations and conditions

From the operands, which are single tokens or stand in brackets, to whole expressions: attributes
and calls, signs and operators, comparisons, negations and what joins them, choices by a condition,
and functions.

**Mistakes.** Of two expressions in a row between brackets it is said that a comma may have been
forgotten. An equals sign that is neither a comparison nor part of a binding is told by what stands
before it.
-/

namespace LinearProgram

namespace Argument

namespace Reader

/-! ## Operands -/

/-- Checks the strings in a row, each after those before it: its characters and escapes, that it
stands for the same as the one before it, and its insertions. -/
def checkStrings (before : Option StringKind) : List (StringKind × Text × Nat) → Reader Unit
  | [] => pure ()
  | (kind, content, line) :: others => do
    let wrong :=
      if kind.bytes then bytesFault? kind.raw content
      else if kind.raw || kind.formatted then none
      else escapeFault? content
    match wrong with
    | some why => fail why
    | none => pure ()
    if before.any (·.bytes != kind.bytes) then fail .mixedStrings
    if kind.formatted then checkInsertions kind content line
    checkStrings (some kind) others
where
  /-- Checks the insertions in a formatted string. -/
  checkInsertions (kind : StringKind) (content : Text) (line : Nat) : Reader Unit :=
    fun setting state =>
      match Formatted.fault? ⟨content, line, kind.raw, setting.insertionFault?⟩ with
      | some (.own why) => fail why setting state
      | some (.ofExpression why) => failAs why setting state
      | none => (.found (), state)

/-- Strings in a row, which are one. -/
def strings : Reader Expression := do
  let list ← several string
  checkStrings none list
  pure (.string (list.any (·.1.formatted)))

/-- A number. -/
def numeral : Reader Expression := do
  let value ← accept fun t => match t with
    | .number value => some value
    | _ => none
  match value with
  | .tooLong count => fail (.tooManyDigits count)
  | value => pure (.number value)

variable (read : Phrase → Reader Expression)

/-- An operand without what may follow it. -/
def operand : Reader Expression :=
  (.name <$> name) <|>
  (.constant <$> oneWordOf constants) <|>
  read .strings <|>
  numeral <|>
  (do
    ahead (symbol "(")
    tuple read <|> group read <|> generator read) <|>
  (do
    ahead (symbol "\x7b")
    dictionary read <|> set read <|> dictionaryComprehension read <|> setComprehension read) <|>
  (do
    symbol "..."
    pure .ellipsis)

/-- What may follow an operand: a name after a point, or what is given to a function. It makes
another operand of the one before it. -/
def trailer : Reader (Expression → Expression) :=
  (do
    symbol "."
    let _ ← name
    pure fun _ => .attribute) <|>
  (do
    let _ ← generator read
    pure fun _ => .call) <|>
  (do
    symbol "("
    let given ← optional (read .arguments)
    symbol ")"
    pure fun e => e.called given.isSome)

/-- An operand with all that follows it. -/
def primary : Reader Expression := do
  let first ← operand read
  let trailers ← many (trailer read)
  pure (trailers.foldl (fun e next => next e) first)

/-- The beginning of a target that is an attribute: an operand with all that follows it but the last
name. -/
def targetBeginning : Reader Expression := do
  let goesOn := ahead (oneOf ["(", "[", "."])
  let first ← operand read
  goesOn
  let _ ← many (do
    let _ ← trailer read
    goesOn)
  pure first

/-- An operand that is waited for. -/
def awaited : Reader Expression :=
  (do
    word "await"
    let _ ← read .primary
    pure .awaiting) <|>
  read .primary

/-! ## Operations -/

/-- An operand to a power, or without one. -/
def power : Reader Expression :=
  (do
    let _ ← read .awaited
    symbol "**"
    let _ ← read .factor
    pure .operation) <|>
  read .awaited

/-- An operand with a sign before it, or without one. -/
def factor : Reader Expression :=
  (do
    let sign ← oneOf ["+", "-", "~"]
    let e ← read .factor
    pure (e.withSign sign)) <|>
  power read

/-- Operands with operators between them, taken together from left to right. -/
def operations (operand : Phrase) (operators : List String) : Reader Expression := do
  let first ← read operand
  let others ← many (do
    let operator ← oneOf operators
    let e ← read operand
    pure (operator, e))
  pure (others.foldl (fun e (operator, second) => e.combine operator second) first)

/-! ## Conditions -/

/-- An operator that compares, and whether it asks for membership. -/
def comparator : Reader Bool :=
  (do
    let _ ← oneOf ["==", "!=", "<=", "<", ">=", ">"]
    pure false) <|>
  (do
    word "not"
    word "in"
    pure false) <|>
  (do
    word "in"
    pure true) <|>
  (do
    word "is"
    let _ ← optional (word "not")
    pure false)

/-- Operands that are compared, or a single one. -/
def comparison : Reader Expression := do
  let first ← read .bitwiseOr
  let others ← many (do
    let membership ← comparator
    let _ ← read .bitwiseOr
    pure membership)
  pure (match others with
    | [] => first
    | membership :: _ => .comparison first membership)

/-- A comparison, perhaps negated. -/
def inversion : Reader Expression :=
  (do
    word "not"
    let _ ← read .inversion
    pure .operation) <|>
  comparison read

/-- Phrases that are joined by a word, or a single one. -/
def joined (part : Phrase) (joint : String) : Reader Expression := do
  let first ← read part
  let others ← many (do word joint; read part)
  pure (if others.isEmpty then first else .operation)

/-! ## Expressions -/

/-- A choice between two expressions by a condition. -/
def choice : Reader Expression := do
  let _ ← read .disjunction
  word "if"
  let _ ← read .disjunction
  word "else"
  let _ ← read .expression
  pure .conditional

/-- An expression in which no mistakes are looked for. -/
def plainExpression : Reader Expression :=
  withoutMistakes (choice read <|> read .disjunction <|> function read)

/-- Words that are names only where they cannot begin something else. -/
def softWords : List String := ["_", "case", "match"]

/-- Finds a word that is one of these, or the beginning of one of them. -/
def softWord : Reader Unit :=
  accept fun t => match t with
    | .word letters =>
      if softWords.any fun soft => letters.isPrefixOf soft.toList then some () else none
    | _ => none

/-- Two expressions in a row, or a choice that lacks its second part. What begins like a string
with a wrong word before it, or with a word that may not be meant as a name, is passed over, and
so is the name of a function that is easily written without parentheses. -/
def wrongSequence : Reader Expression := do
  let sequence ← optional (do
    notAhead ((do let _ ← name; let _ ← string) <|> softWord)
    let first ← read .disjunction
    let _ ← plainExpression read
    let open? ← depth
    pure (first, open?))
  match sequence with
  | some (first, open?) =>
    if first.bareFunction?.isSome || open? = 0 then miss else fail .forgottenComma
  | none =>
    let _ ← read .disjunction
    word "if"
    let _ ← read .disjunction
    notAhead (word "else" <|> symbol ":")
    fail .missingElse

/-- A function that is easily written without parentheses, and is. -/
def wrongCall : Reader Expression := do
  let letters ← name
  notAhead (symbol "(")
  let _ ← starExpressions read
  match (Expression.name letters).bareFunction? with
  | some letters => fail (.missingParentheses letters)
  | none => miss

/-- An expression. -/
def expression : Reader Expression :=
  mistake (wrongSequence read) <|>
  mistake (wrongCall read) <|>
  choice read <|>
  read .disjunction <|>
  function read

/-- An expression, perhaps starred. -/
def starExpression : Reader Expression := starredOperand read <|> read .expression

/-- Something that is bound or assigned to although it is no name. -/
def wrongBinding : Reader Expression :=
  let noMore := notAhead (symbol "=" <|> symbol ":=")
  (do
    let e ← read .expression
    symbol ":="
    let _ ← read .expression
    fail (.bindingOf e.title)) <|>
  (do
    let _ ← name
    symbol "="
    let _ ← read .bitwiseOr
    noMore
    fail .assignment) <|>
  (do
    notAhead (tuple read <|> generator read <|> .constant <$> oneWordOf constants)
    let e ← read .bitwiseOr
    symbol "="
    let _ ← read .bitwiseOr
    noMore
    fail (.assignmentHere e.title))

end Reader

end Argument

end LinearProgram
