import LinearProgram.Display.Argument.Expression
import Std.Data.HashMap

/-!
# Readers of phrases

A reader looks for a phrase where it stands in the tokens. It finds the phrase and goes behind it,
or it misses the phrase and another reader tries in its place, or it fails with a fault that ends
all reading (`Outcome`).

**State.** A reader keeps where it stands and how far it has looked ahead, because a fault in a
token counts as soon as the token has been looked at. Phrases that are looked for again and again
at one place are remembered, found or missed.

**Mistakes.** Some readers look for what is written wrongly in a way that has a text of its own
(`Reader.mistake`). They are idle unless the setting asks for them.
-/

namespace LinearProgram

namespace Argument

/-- The phrases that refer to each other or are remembered. -/
inductive Phrase where
  | expression
  | starExpression
  | wrongBinding
  | disjunction
  | conjunction
  | inversion
  | bitwiseOr
  | bitwiseXor
  | bitwiseAnd
  | shift
  | sum
  | term
  | factor
  | awaited
  | primary
  | strings
  | arguments
  | target
  | simpleTarget
  | targetBeginning
  deriving DecidableEq, Hashable

/-- In which tokens is read, and how. -/
structure Setting where
  lexemes : Array Lexeme
  /-- The tokens come from an insertion in a formatted string. -/
  inserted : Bool
  /-- Mistakes are looked for. -/
  mistakes : Bool
  /-- The fault in an insertion that stands on the given line. -/
  insertionFault? : Nat → Text → Option Fault

/-- Where a reader stands, how many tokens have been looked at, and what is remembered. -/
structure State where
  position : Nat
  seen : Nat
  remembered : Std.HashMap (Phrase × Nat) (Option (Expression × Nat))

/-- What comes of reading. -/
inductive Outcome (α : Type) where
  | found (result : α)
  | missed
  | failed (why : Fault)

/-- The lexeme at a place. Behind the end there is no other one than the last. -/
def Setting.lexemeAt (setting : Setting) (position : Nat) : Lexeme :=
  setting.lexemes[position]?.getD (setting.lexemes.back?.getD ⟨.finish, 1, 0, true⟩)

/-- A reader of something. -/
def Reader (α : Type) := Setting → State → Outcome α × State

namespace Reader

variable {α β : Type}

instance : Monad Reader where
  pure result := fun _ state => (.found result, state)
  bind read next := fun setting state =>
    match read setting state with
    | (.found result, state) => next result setting state
    | (.missed, state) => (.missed, state)
    | (.failed why, state) => (.failed why, state)

/-- Misses. -/
def miss : Reader α := fun _ state => (.missed, state)

/-- Tries a reader, and another one in its place if it misses. -/
def orElse (first : Reader α) (second : Unit → Reader α) : Reader α := fun setting state =>
  match first setting state with
  | (.missed, after) => second () setting { after with position := state.position }
  | other => other

instance : OrElse (Reader α) := ⟨orElse⟩

/-- Fails with a fault of the expression that is read. -/
def fail (why : Fault) : Reader α := fun setting state =>
  (.failed (if setting.inserted then .inInsertion why else why), state)

/-- Fails with a fault that is told as it is. -/
def failAs (why : Fault) : Reader α := fun _ state => (.failed why, state)

/-- What a reader finds, if it finds something. It stays where it stands if it misses. -/
def optional (read : Reader α) : Reader (Option α) := some <$> read <|> pure none

/-- Looks whether a reader would find something here. -/
def isAhead (read : Reader α) : Reader Bool := fun setting state =>
  match read setting state with
  | (.found _, after) => (.found true, { after with position := state.position })
  | (.missed, after) => (.found false, { after with position := state.position })
  | (.failed why, after) => (.failed why, after)

/-- Misses unless the condition holds. -/
def require (condition : Bool) : Reader Unit := if condition then pure () else miss

/-- Goes on only if a reader would find something here. -/
def ahead (read : Reader α) : Reader Unit := do require (← isAhead read)

/-- Goes on only if a reader would find nothing here. -/
def notAhead (read : Reader α) : Reader Unit := do require (!(← isAhead read))

/-- A reader of mistakes, which misses if they are not asked for. -/
def mistake (read : Reader α) : Reader α := fun setting state =>
  if setting.mistakes then read setting state else (.missed, state)

/-- Reads without looking for mistakes. -/
def withoutMistakes (read : Reader α) : Reader α := fun setting state =>
  read { setting with mistakes := false } state

/-! ## Repetition -/

/-- What a reader finds time after time, while the limit lasts. -/
def manyWithin (read : Reader α) : Nat → Reader (List α)
  | 0 => pure []
  | limit + 1 => do
    match ← optional read with
    | none => pure []
    | some result =>
      let others ← manyWithin read limit
      pure (result :: others)

/-- What a reader finds time after time. It finds something at most once for every token. -/
def many (read : Reader α) : Reader (List α) := fun setting state =>
  manyWithin read (setting.lexemes.size + 1) setting state

/-- What a reader finds time after time, once at least. -/
def several (read : Reader α) : Reader (List α) := do
  let result ← read
  let others ← many read
  pure (result :: others)

/-- What a reader finds between separators, once at least. -/
def separated (read : Reader α) (separator : Reader β) : Reader (List α) := do
  let result ← read
  let others ← many (do let _ ← separator; read)
  pure (result :: others)

/-! ## Tokens -/

/-- Looks at the next token, which must not be a fault. -/
def look : Reader Token := fun setting state =>
  let state := { state with seen := max state.seen (state.position + 1) }
  match (setting.lexemeAt state.position).token with
  | .fault why => failAs why setting state
  | .stop why _ => fail why setting state
  | token => (.found token, state)

/-- Goes behind the next token. -/
def advance : Reader Unit := fun _ state =>
  (.found (), { state with position := state.position + 1 })

/-- Finds a token of which something can be made. -/
def accept (choose : Token → Option α) : Reader α := do
  match choose (← look) with
  | some result =>
    advance
    pure result
  | none => miss

/-- Finds the given token. -/
def exactly (token : Token) : Reader Unit := accept fun t => if t = token then some () else none

/-- Finds a symbol. -/
def symbol (characters : String) : Reader Unit := exactly (.symbol characters.toList)

/-- Finds a word. -/
def word (letters : String) : Reader Unit := exactly (.word letters.toList)

/-- Finds one of several symbols. -/
def oneOf (symbols : List String) : Reader Text :=
  accept fun t => match t with
    | .symbol s => if symbols.contains (String.ofList s) then some s else none
    | _ => none

/-- Words for true, false and nothing. -/
def constants : List String := ["True", "False", "None"]

/-- Words that are no names. -/
def reservedWords : List String :=
  constants ++
    ["and", "as", "assert", "async", "await", "break", "class", "continue", "def", "del", "elif",
     "else", "except", "finally", "for", "from", "global", "if", "import", "in", "is", "lambda",
     "nonlocal", "not", "or", "pass", "raise", "return", "try", "while", "with", "yield"]

/-- Finds a word that is a name. -/
def name : Reader Text :=
  accept fun t => match t with
    | .word letters => if reservedWords.contains (String.ofList letters) then none else some letters
    | _ => none

/-- Finds one of the given words. -/
def oneWordOf (words : List String) : Reader Text :=
  accept fun t => match t with
    | .word letters => if words.contains (String.ofList letters) then some letters else none
    | _ => none

/-- Finds a string, with its line. -/
def string : Reader (StringKind × Text × Nat) := fun setting state =>
  (accept fun t => match t with
    | .string kind content =>
      some (kind, content, (setting.lexemeAt state.position).line)
    | _ => none) setting state

/-- How many brackets are open after the last token that was found. -/
def depth : Reader Nat := fun setting state =>
  (.found (setting.lexemeAt (state.position - 1)).depth, state)

/-! ## Remembering -/

/-- Reads a phrase unless it is remembered whether it stands here. -/
def remembering (phrase : Phrase) (read : Reader Expression) : Reader Expression := do
  let _ ← look
  fun setting state =>
    let place := (phrase, state.position)
    match state.remembered[place]? with
    | some (some (e, position)) => (.found e, { state with position := position })
    | some none => (.missed, state)
    | none =>
      match read setting state with
      | (.found e, after) =>
        (.found e,
          { after with remembered := after.remembered.insert place (some (e, after.position)) })
      | (.missed, after) =>
        (.missed,
          { after with
            position := state.position
            remembered := after.remembered.insert place none })
      | (.failed why, after) => (.failed why, after)

end Reader

end Argument

end LinearProgram
