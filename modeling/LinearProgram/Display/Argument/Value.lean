import LinearProgram.Display.Argument.Operation

/-!
# Values of arguments

An argument has to be written as an expression and has to mean a value; `fault?` says why it has
none.

**Two readings.** The tokens are read for what is right first. If nothing is found, they are read
again, and now mistakes are looked for (`outcome`).

**Which fault counts.** A fault that ends the reading counts, unless there is one in a token behind
all that have been looked at; a bracket that is never closed counts in the same way if it stands on
a line before these. If no fault ends the readings, the argument is just invalid, but blanks at the
beginning of a line are noticed at once.
-/

namespace LinearProgram

namespace Argument

/-- The reader of a phrase, in terms of the readers of the phrases in it. -/
def phraseReader (read : Phrase → Reader Expression) : Phrase → Reader Expression
  | .expression => Reader.expression read
  | .starExpression => Reader.starExpression read
  | .wrongBinding => Reader.wrongBinding read
  | .disjunction => Reader.joined read .conjunction "or"
  | .conjunction => Reader.joined read .inversion "and"
  | .inversion => Reader.inversion read
  | .bitwiseOr => Reader.operations read .bitwiseXor ["|"]
  | .bitwiseXor => Reader.operations read .bitwiseAnd ["^"]
  | .bitwiseAnd => Reader.operations read .shift ["&"]
  | .shift => Reader.operations read .sum ["<<", ">>"]
  | .sum => Reader.operations read .term ["+", "-"]
  | .term => Reader.operations read .factor ["*", "/", "//", "%", "@"]
  | .factor => Reader.factor read
  | .awaited => Reader.awaited read
  | .primary => Reader.primary read
  | .strings => Reader.strings
  | .arguments => Reader.arguments read
  | .target => Reader.target read
  | .simpleTarget => Reader.simpleTarget read
  | .targetBeginning => Reader.targetBeginning read

/-- The reader of a phrase in which phrases stand in each other while the limit lasts. -/
def readWithin : Nat → Phrase → Reader Expression
  | 0, _ => Reader.miss
  | limit + 1, phrase => Reader.remembering phrase (phraseReader (readWithin limit) phrase)

/-- The reader of a phrase in so many tokens. Less than twenty phrases stand in each other for each
token. -/
def phrase (size : Nat) : Phrase → Reader Expression := readWithin (20 * (size + 2))

/-! ## Faults that count -/

/-- The first fault in tokens that have not been looked at, where the last one that has been looked
at stands on the given line. -/
def unseenFault? (setting : Setting) (line : Nat) (unseen : List Lexeme) : Option Fault :=
  match unseen.getLast?.map Lexeme.token with
  | some (.fault why) => some why
  | some (.stop _ (some (bracket, start))) =>
    if start < line then
      some (if setting.inserted then .inInsertion (.neverClosed bracket) else .neverClosed bracket)
    else none
  | _ => none

/-- The fault that counts if the given one is what is said after so many tokens. -/
def countingFault (setting : Setting) (seen : Nat) (why : Fault) : Fault :=
  (unseenFault? setting (setting.lexemeAt (seen - 1)).line (setting.lexemes.toList.drop seen)).getD
    why

/-- The expression that a reader finds, if there is one without a fault. If the last token has been
looked at, what ends the reading counts in any case. -/
def outcome (setting : Setting) (read : Reader Expression) : Except Fault Expression :=
  let own := fun why : Fault => if setting.inserted then .inInsertion why else why
  let ended := fun (why : Fault) (state : State) =>
    if (setting.lexemeAt (state.seen - 1)).last then why else countingFault setting state.seen why
  match read { setting with mistakes := false } ⟨0, 0, ∅⟩ with
  | (.found e, _) => .ok e
  | (.failed why, state) => .error (ended why state)
  | (.missed, first) =>
    match read { setting with mistakes := true } ⟨0, first.seen, ∅⟩ with
    | (.failed why, state) => .error (ended why state)
    | (_, state) =>
      if (setting.lexemeAt (first.seen - 1)).token = .indent then .error (own .unexpectedIndent)
      else .error (countingFault setting state.seen (own .invalid))

/-! ## Insertions and whole arguments -/

/-- The fault in an insertion in which insertions stand in each other while the limit lasts. What
follows the expression is not looked at. -/
def insertionFaultWithin : Nat → Nat → Text → Option Fault
  | 0, _, _ => none
  | limit + 1, line, s =>
    let list := (lexemes line s).toArray
    let setting : Setting := ⟨list, true, false, insertionFaultWithin limit⟩
    match outcome setting (Reader.starExpressions (phrase list.size)) with
    | .ok _ => none
    | .error why => some why

/-- The reader of a whole argument: expressions and the ends of lines. -/
def wholeArgument (size : Nat) : Reader Expression := do
  let e ← Reader.listed (phrase size .expression)
  let _ ← Reader.many (Reader.exactly .lineEnd)
  Reader.exactly .finish
  pure e

/-- The expression as which an argument is written. -/
def whole (s : Text) : Except Fault Expression :=
  let list := (lexemes 1 s).toArray
  outcome ⟨list, false, false, insertionFaultWithin (s.length + 1)⟩ (wholeArgument list.size)

/-- Why an argument has no value, if it has none. -/
def fault? (s : Text) : Option Fault :=
  if s.contains (Char.ofNat 0) then some .nullCharacter
  else match whole s with
    | .ok e => e.fault?
    | .error why => some why

end Argument

end LinearProgram
