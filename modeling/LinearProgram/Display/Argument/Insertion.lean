import LinearProgram.Display.Argument.Escape
import LinearProgram.Display.Argument.Token

/-!
# Insertions in formatted strings

A formatted string is text with expressions in braces. A brace that is doubled is text. Behind an
expression there may be an equals sign, a conversion after an exclamation mark, and, after a colon,
a description of its form, which is formatted text again; there the insertions come to an end.

**Expressions.** An expression reaches as far as to the first mark outside its brackets and strings
that can stand behind it (`expressionPart`). Backslashes and number signs have no place in it. It is
read between parentheses, for which the reader of expressions is given.

**Order.** Faults are noticed from left to right: those in an escape when the text around it ends,
those in an expression before those in what follows it (`Formatted.fault?`).
-/

namespace LinearProgram

namespace Argument

/-- A stretch of text in a formatted string: whether it ends with a doubled brace, and what follows
it. -/
structure TextPart where
  text : Text
  doubled : Bool
  rest : Text

/-- Reads text up to a brace. What has been read is given, the last character first. Within the
description of a form braces are not doubled. Names in escapes keep their braces. -/
def textPart (raw nested : Bool) : Text → Text → Except Fault TextPart
  | read, [] => .ok ⟨read.reverse, false, []⟩
  | read, c :: s =>
    if c = '\\' && !raw then
      match s with
      | 'N' :: '\x7b' :: rest =>
        let name := rest.takeWhile (· != '\x7d')
        let read := name.reverse ++ ['\x7b', 'N', '\\'] ++ read
        textPart raw nested ((rest.drop name.length).take 1 ++ read) (rest.drop (name.length + 1))
      | 'N' :: d :: rest => textPart raw nested (d :: 'N' :: '\\' :: read) rest
      | d :: rest =>
        if d = '\x7b' || d = '\x7d' then textPart raw nested ('\\' :: read) (d :: rest)
        else textPart raw nested (d :: '\\' :: read) rest
      | [] => textPart raw nested ('\\' :: read) []
    else if c = '\x7b' || c = '\x7d' then
      if !nested && s.head? = some c then .ok ⟨(c :: read).reverse, true, s.drop 1⟩
      else if !nested && c = '\x7d' then .error .loneBrace
      else .ok ⟨read.reverse, false, c :: s⟩
    else textPart raw nested (c :: read) s
  termination_by _ s => s.length
  decreasing_by all_goals simp_wf <;> omega

/-- Marks that can stand behind an expression. Two of them stand within it as well. -/
def insertionMarks : List Char := ['!', ':', '\x7d', '=', '<', '>']

/-- The quote of a string within an expression, and whether there are three of it. -/
structure OpenQuote where
  quote : Char
  isBlock : Bool
  deriving DecidableEq

/-- Reads an expression up to the first mark behind it. What has been read is given, the last
character first, and the brackets that are open, and the quote of the string that is. -/
def expressionPart : List Char → Option OpenQuote → Text → Text → Except Fault (Text × Text)
  | _, some _, _, [] => .error .unterminatedInInsertion
  | bracket :: _, none, _, [] => .error (.unmatchedInInsertion bracket)
  | [], none, read, [] => .ok (read.reverse, [])
  | opened, open?, read, c :: s =>
    if c = '\\' then .error .backslashInInsertion
    else match open? with
      | some ⟨quote, isBlock⟩ =>
        if c != quote then expressionPart opened open? (c :: read) s
        else if !isBlock then expressionPart opened none (c :: read) s
        else if s.take 2 = [c, c] then expressionPart opened none (c :: c :: c :: read) (s.drop 2)
        else expressionPart opened open? (c :: read) s
      | none =>
        if c = '\'' || c = '"' then
          if s.take 2 = [c, c] then
            expressionPart opened (some ⟨c, true⟩) (c :: c :: c :: read) (s.drop 2)
          else expressionPart opened (some ⟨c, false⟩) (c :: read) s
        else if opensBracket c then
          if depthLimit ≤ opened.length then .error .tooDeepInInsertion
          else expressionPart (c :: opened) none (c :: read) s
        else if c = '#' then .error .commentInInsertion
        else if opened.isEmpty && insertionMarks.contains c then
          if s.head? = some '=' && c != ':' && c != '\x7d' then
            expressionPart opened none ('=' :: c :: read) (s.drop 1)
          else if c = '<' || c = '>' then expressionPart opened none (c :: read) s
          else .ok (read.reverse, c :: s)
        else match opener? c, opened with
          | some _, [] => .error (.unmatchedInInsertion c)
          | some bracket, last :: outer =>
            if last = bracket then expressionPart outer none (c :: read) s
            else .error (.mismatchedInInsertion c last)
          | none, _ => expressionPart opened none (c :: read) s
  termination_by _ _ _ s => s.length
  decreasing_by all_goals (simp only [List.length_cons, List.length_drop]; omega)

/-- The rest after a conversion, if there is one: a letter after an exclamation mark. -/
def afterConversion : Text → Except Fault Text
  | '!' :: c :: s => if ['s', 'r', 'a'].contains c then .ok s else .error .badConversion
  | ['!'] => .error .unfinishedInsertion
  | s => .ok s

/-- Blanks of all kinds that belong to ASCII. -/
def isPlainBlank (c : Char) : Bool :=
  c = ' ' || c = '\t' || c = '\n' || c = '\r' || c = '\x0b' || c = '\x0c'

/-- The rest after an equals sign with blanks behind it, if there is one, and a conversion. -/
def afterExpression : Text → Except Fault Text
  | '=' :: s => afterConversion (s.dropWhile isPlainBlank)
  | s => afterConversion s

/-! ## Formatted strings -/

/-- A formatted string: its content, the line on which it begins, and whether its escapes count. The
reader of expressions gives the fault of one that stands on the given line. -/
structure Formatted where
  content : Text
  line : Nat
  raw : Bool
  expressionFault? : Nat → Text → Option Fault

/-- What is wrong in a formatted string: it is noticed in the string itself, or in an expression. -/
inductive FormattedFault where
  | own (why : Fault)
  | ofExpression (why : Fault)

namespace Formatted

/-- The line of what is left of the content. -/
def lineOf (string : Formatted) (rest : Text) : Nat :=
  string.line + (string.content.count '\n' - rest.count '\n')

/-- A fault of the string itself. -/
def owning {α : Type} : Except Fault α → Except FormattedFault α
  | .ok result => .ok result
  | .error why => .error (.own why)

/-- Checks an expression, before the given rest and its mark. -/
def checkExpression (string : Formatted) (e rest : Text) : Except FormattedFault Unit :=
  match rest with
  | [] => .error (.own .unfinishedInsertion)
  | mark :: _ =>
    if e.all fun c => isSpace c || c = '\n' then
      .error (.own (if mark = '\x7d' then .emptyInsertion else .nothingBefore mark))
    else
      match string.expressionFault? (string.lineOf ('\x7b' :: e ++ rest))
          ('(' :: (e ++ [')', '\n'])) with
      | some why => .error (.ofExpression why)
      | none => .ok ()

/-- Goes through formatted text at the given depth while the limit lasts, which each insertion and
each doubled brace lowers by one. What is left is empty or begins with a closing brace. -/
def through (string : Formatted) : Nat → Nat → Text → Except FormattedFault Text
  | 0, _, s => .ok s
  | limit + 1, level, s => do
    let part ← owning (textPart string.raw (0 < level) [] s)
    match if string.raw then none else escapeFault? part.text with
    | some why => .error (.own why)
    | none =>
      if part.doubled then through string limit level part.rest
      else match part.rest with
        | '\x7b' :: s =>
          if 2 ≤ level then .error (.own .nestedInsertions)
          else
            let (e, rest) ← owning (expressionPart [] none [] s)
            checkExpression string e rest
            let rest ← owning (afterExpression rest)
            let rest ← match rest with
              | [':'] => .error (.own .unfinishedInsertion)
              | ':' :: form => through string limit (level + 1) form
              | rest => .ok rest
            match rest with
            | '\x7d' :: rest => through string limit level rest
            | _ => .error (.own .unfinishedInsertion)
        | rest => .ok rest

/-- The fault in a formatted string. -/
def fault? (string : Formatted) : Option FormattedFault :=
  match through string (string.content.length + 1) 0 string.content with
  | .error why => some why
  | .ok _ => none

end Formatted

end Argument

end LinearProgram
