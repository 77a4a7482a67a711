import LinearProgram.Display.Argument.Fault
import LinearProgram.Text.CharacterName
import LinearProgram.Text.Identifier
import LinearProgram.Text.LineBreak
import LinearProgram.Text.LowerCase

/-!
# Tokens of arguments

The argument of an action is written as a value: a number, a string, a word, or several of them
between brackets. Here it is cut into tokens, each with its line and with the number of brackets
that are open after it (`lexemes`).

**Lines.** Between brackets a line break is a blank. Outside it is a token, and so are the blanks
with which the next line begins if there are more of them than before. A backslash joins a line to
the next one, and a number sign begins a comment.

**Faults.** A character or a literal that cannot stand where it stands ends the tokens with one of
its own (`Token.fault`). The end within brackets, and a backslash that joins nothing, end them in
another way (`Token.stop`): they matter only to those who read as far as that. All other arguments
end with `Token.finish`.
-/

namespace LinearProgram

namespace Argument

/-- A number, as far as it matters which one it is. -/
inductive Numeral where
  | whole (value : Nat)
  /-- A whole number with too many digits to be read. -/
  | tooLong (digits : Nat)
  | fraction
  | imaginary
  deriving DecidableEq

/-- What the word before a string makes of it: values are inserted in it, it stands for bytes, and
it has no escapes. -/
structure StringKind where
  formatted : Bool
  bytes : Bool
  raw : Bool
  deriving DecidableEq

/-- A token. -/
inductive Token where
  | number (value : Numeral)
  | string (kind : StringKind) (content : Text)
  | word (letters : Text)
  | symbol (characters : Text)
  | lineEnd
  | indent
  | finish
  | fault (why : Fault)
  /-- The tokens end too early, with the innermost bracket that is open and its line. -/
  | stop (why : Fault) (opened : Option (Char × Nat))
  deriving DecidableEq

/-- A token, the line on which it begins, and the number of brackets that are open after it. `last`
says that nothing follows it, and that this is noticed because it could have gone on. -/
structure Lexeme where
  token : Token
  line : Nat
  depth : Nat
  last : Bool
  deriving DecidableEq

/-! ## Numbers -/

/-- The digits from 0 to 9. -/
def isPlainDigit (c : Char) : Bool := '0' ≤ c && c ≤ '9'

/-- Characters of words, as far as these are told from numbers and symbols. -/
def isWordPart (c : Char) : Bool := c = '_' || c.isAlphanum || 128 ≤ c.toNat

/-- Whether each underscore in a run of digits stands between two digits. -/
def separates : Text → Bool
  | [] => true
  | [c] => c != '_'
  | c :: d :: s => !(c = '_' && d = '_') && separates (d :: s)

/-- The rest after a run of digits. -/
def afterDigits (s : Text) : Except Fault Text :=
  let inRun := fun c : Char => isPlainDigit c || c = '_'
  if separates (s.takeWhile inRun) then .ok (s.dropWhile inRun) else .error (.badNumber "decimal")

/-- Words that may follow a number without a blank. -/
def followers : List String := ["and", "else", "for", "if", "in", "is", "or", "not"]

/-- What follows a number, if that is no part of a word. -/
def numberEnd (kind : String) (s : Text) : Except Fault Text :=
  match s with
  | [] => .ok s
  | c :: _ =>
    if c.toNat < 128 && isWordPart c && !(followers.any fun word => word.toList.isPrefixOf s) then
      .error (.badNumber kind)
    else .ok s

/-- The rest after a fraction, if there is one: a point and perhaps digits. -/
def afterFraction : Text → Except Fault Text
  | '.' :: c :: s => if isPlainDigit c then afterDigits (c :: s) else .ok (c :: s)
  | '.' :: s => .ok s
  | s => .ok s

/-- The rest after an exponent, if there is one. -/
def afterExponent (s : Text) : Except Fault Text :=
  match s with
  | e :: c :: rest =>
    if e = 'e' || e = 'E' then
      if c = '+' || c = '-' then
        if (rest.head?.map isPlainDigit).getD false then afterDigits rest
        else .error (.badNumber "decimal")
      else if isPlainDigit c then afterDigits (c :: rest)
      else .ok s
    else .ok s
  | _ => .ok s

/-- The whole number that digits to the given base denote. -/
def wholeNumber (base : Nat) (digits : Text) : Nat :=
  digits.foldl (fun n c => base * n + (hexValue? c).getD 0) 0

/-- A number to another base, whose digits are at the beginning of the text, and the rest. -/
def basedNumber (kind : String) (base : Nat) (s : Text) : Except Fault (Numeral × Text) :=
  let inRun := fun c : Char => c = '_' || isPlainDigit c ||
    (base = 16 && (('a' ≤ c && c ≤ 'f') || ('A' ≤ c && c ≤ 'F')))
  let run := s.takeWhile inRun
  match run.find? fun c => isPlainDigit c && base ≤ c.toNat - 48 with
  | some digit => .error (.badDigit digit kind)
  | none =>
    if run.isEmpty || !separates run then .error (.badNumber kind)
    else (numberEnd kind (s.dropWhile inRun)).map fun rest =>
      (.whole (wholeNumber base (run.filter (· != '_'))), rest)

/-- The whole number in decimal digits, unless they are too many. Zeros are never too many. -/
def decimalWhole (digits : Text) : Numeral :=
  if digits.head? != some '0' && Fault.digitLimit < digits.length then .tooLong digits.length
  else .whole (wholeNumber 10 digits)

/-- What a number is, and the rest, if `rest` follows the digits before the point and `left` what
belongs to the number but a sign that it is imaginary. -/
def decimalEnd (digits rest left : Text) : Except Fault (Numeral × Text) :=
  let value : Numeral := if left.length < rest.length then .fraction else decimalWhole digits
  match left with
  | [] => .ok (value, [])
  | c :: s =>
    if c = 'j' || c = 'J' then (numberEnd "imaginary" s).map fun rest => (.imaginary, rest)
    else (numberEnd "decimal" (c :: s)).map fun rest => (value, rest)

/-- A number in decimal digits, and the rest. A whole number does not begin with a zero, unless it
is zero. -/
def decimalNumber (s : Text) : Except Fault (Numeral × Text) := do
  let rest ← afterDigits s
  let digits := (s.take (s.length - rest.length)).filter (· != '_')
  let padded := digits.head? = some '0' && digits.any (· != '0')
  let isWhole := match rest with
    | [] => true
    | c :: _ => !(['.', 'e', 'E', 'j', 'J'].contains c)
  if padded && isWhole then .error .leadingZeros
  else decimalEnd digits rest (← afterExponent (← afterFraction rest))

/-- The number at the beginning of a text, and the rest. -/
def number : Text → Except Fault (Numeral × Text)
  | '0' :: c :: s =>
    if c = 'x' || c = 'X' then basedNumber "hexadecimal" 16 s
    else if c = 'o' || c = 'O' then basedNumber "octal" 8 s
    else if c = 'b' || c = 'B' then basedNumber "binary" 2 s
    else decimalNumber ('0' :: c :: s)
  | s => decimalNumber s

/-! ## Strings -/

/-- What is found of a string after its first quote: the content, the line on which it ends, and
the rest. -/
structure StringEnd where
  content : Text
  line : Nat
  rest : Text

/-- Reads a string on one line, up to its quote. What has been read is given, the last character
first. -/
def stringEnd (quote : Char) : Text → Nat → Text → Except Fault StringEnd
  | _, line, [] => .error (.unterminated line)
  | read, line, [c] =>
    if c = quote then .ok ⟨read.reverse, line, []⟩ else .error (.unterminated line)
  | read, line, c :: d :: s =>
    if c = quote then .ok ⟨read.reverse, line, d :: s⟩
    else if c = '\n' then .error (.unterminated line)
    else if c = '\\' then
      stringEnd quote (d :: c :: read) (if d = '\n' then line + 1 else line) s
    else stringEnd quote (c :: read) line (d :: s)

/-- Reads a string of many lines, up to its three quotes. -/
def blockEnd (quote : Char) : Text → Nat → Text → Except Fault StringEnd
  | _, line, [] => .error (.unterminatedBlock line)
  | _, line, [_] => .error (.unterminatedBlock line)
  | read, line, c :: d :: s =>
    if c = quote && d = quote && s.head? = some quote then
      .ok ⟨read.reverse, line, s.drop 1⟩
    else if c = '\\' then
      blockEnd quote (d :: c :: read) (if d = '\n' then line + 1 else line) s
    else blockEnd quote (c :: read) (if c = '\n' then line + 1 else line) (d :: s)

/-- Reads a string whose first quote has been read. Three quotes begin a string of many lines. -/
def afterQuote (quote : Char) (line : Nat) (s : Text) : Except Fault StringEnd :=
  if s.take 2 = [quote, quote] then blockEnd quote [] line (s.drop 2)
  else stringEnd quote [] line s

/-- A string before which no word stands. -/
def plainString : StringKind := ⟨false, false, false⟩

/-- What a word makes of a string that follows it, if it may stand there. -/
def stringKind? (word : Text) : Option StringKind :=
  let marks := Text.lower word
  if ["b", "u", "r", "f", "br", "rb", "fr", "rf"].contains (String.ofList marks) then
    some ⟨marks.contains 'f', marks.contains 'b', marks.contains 'r'⟩
  else none

/-- The string at the beginning of a text before which a word stands: its kind and what is found of
it, if it is a string and the word may stand there. -/
def markedString? (word : Text) (line : Nat) : Text → Option (StringKind × Except Fault StringEnd)
  | [] => none
  | c :: s =>
    if c = '\'' || c = '"' then (stringKind? word).map fun kind => (kind, afterQuote c line s)
    else none

/-! ## Symbols -/

/-- The symbols of more than one character, the longer ones first. -/
def longSymbols : List String :=
  ["...", "**=", "//=", ">>=", "<<=", "**", "//", ">>", "<<", "==", "!=", "<=", ">=", "->", ":=",
   "+=", "-=", "*=", "/=", "%=", "&=", "|=", "^=", "@=", "<>"]

/-- The symbol at the beginning of a text that begins with the given character. -/
def symbolAt (c : Char) (s : Text) : Text :=
  match longSymbols.find? fun symbol => symbol.toList.isPrefixOf (c :: s) with
  | some symbol => symbol.toList
  | none => [c]

/-- The brackets, each opening one with the closing one. -/
def brackets : List (Char × Char) := [('(', ')'), ('\x7b', '\x7d')]

/-- Whether a character opens a bracket. -/
def opensBracket (c : Char) : Bool := brackets.any (·.1 == c)

/-- The opening bracket that a closing one belongs to. -/
def opener? (c : Char) : Option Char := (brackets.find? (·.2 == c)).map (·.1)

/-- How many brackets may be open at a time. -/
def depthLimit : Nat := 200

/-! ## Lines -/

/-- How far the beginning of a line is moved to the right: with tabs up to the next multiple of
eight, and with tabs of one blank. -/
structure Indent where
  column : Nat
  narrow : Nat
  deriving DecidableEq

/-- The beginning of a line: how far it is moved, the number of lines that are joined to it before
there is something on it, and what follows the blanks. -/
structure LineStart where
  indent : Indent
  joined : Nat
  rest : Text

/-- Reads the blanks at the beginning of a line. A form feed begins it anew, and the first of the
joined lines that has blanks settles how far it is moved. A backslash that joins nothing is left
standing. -/
def lineStart (settled : Option Indent) (joined : Nat) (here : Indent) : Text → LineStart
  | ' ' :: s => lineStart settled joined ⟨here.column + 1, here.narrow + 1⟩ s
  | '\t' :: s => lineStart settled joined ⟨(here.column / 8 + 1) * 8, here.narrow + 1⟩ s
  | '\x0c' :: s => lineStart settled joined ⟨0, 0⟩ s
  | '\\' :: '\n' :: s =>
    lineStart (settled.or (if here.column = 0 then none else some ⟨here.column, here.column⟩))
      (joined + 1) here s
  | s => ⟨settled.getD here, joined, s⟩

/-- What the beginning of a line means for the lines after it: nothing, a deeper or a shallower
level, or that it fits none of the levels. -/
inductive LineShift where
  | same
  | deeper
  | back (levels : List Indent)
  | misfit

/-- Compares the beginning of a line with the levels that are open, the last one first. -/
def lineShift (levels : List Indent) (here : Indent) : LineShift :=
  let top := levels.head?.getD ⟨0, 0⟩
  if here.column = top.column then if here.narrow = top.narrow then .same else .misfit
  else if top.column < here.column then if top.narrow < here.narrow then .deeper else .misfit
  else
    let left := levels.dropWhile fun level => here.column < level.column
    if left.head?.getD ⟨0, 0⟩ = here then .back left else .misfit

/-! ## Cutting into tokens -/

/-- Characters that separate tokens. -/
def isSpace (c : Char) : Bool := c = ' ' || c = '\t' || c = '\x0c'

/-- Where the cutting stands: the brackets that are open, with their lines, and the levels of
indentation, the last ones first; the line, and whether there is no token on it. -/
structure Cutting where
  opened : List (Char × Nat)
  levels : List Indent
  line : Nat
  fresh : Bool

namespace Cutting

/-- A token of the line on which the cutting stands, if it stands like this after the token and
before the given rest. -/
def lexeme (here : Cutting) (token : Token) (rest : Text) : Lexeme :=
  let goesOn := match token with
    | .string _ _ => false
    | .symbol characters => characters.length < 3
    | _ => true
  ⟨token, here.line, here.opened.length, goesOn && rest.isEmpty⟩

/-- A string after whose first quote the given text follows. It could go on if it is empty, because
three quotes begin a string of many lines. -/
def stringLexeme (here : Cutting) (kind : StringKind) (content text : Text) : Lexeme :=
  ⟨.string kind content, here.line, here.opened.length, text.length = 1⟩

/-- The last token, for a reason that stops the cutting. -/
def stopped (here : Cutting) (why : Fault) : List Lexeme :=
  [here.lexeme (.stop why here.opened.head?) []]

/-- The last token, for a fault. -/
def faulty (here : Cutting) (why : Fault) : List Lexeme := [here.lexeme (.fault why) []]

/-- The last token at the end of the text. -/
def finished (here : Cutting) : List Lexeme :=
  match here.opened with
  | [] => [here.lexeme .finish []]
  | (bracket, _) :: _ => here.stopped (.neverClosed bracket)

/-- The cutting after a token. -/
def filled (here : Cutting) : Cutting := { here with fresh := false }

end Cutting

/-- Cuts a text into tokens while the limit lasts, which every token and every blank lowers by one.
`atStart` says that a line begins here. -/
def lexemesWithin : Nat → Bool → Cutting → Text → List Lexeme
  | 0, _, here, _ => here.finished
  | limit + 1, true, here, s =>
    let start := lineStart none 0 ⟨0, 0⟩ s
    let here := { here with line := here.line + start.joined, fresh := true }
    let isBlank := start.rest.head? = some '#' || start.rest.head? = some '\n'
    if start.rest.head? = some '\\' then here.stopped .afterBackslash
    else if start.rest.isEmpty && 0 < start.joined && s.getLast? = some '\n' then
      here.stopped .unfinishedLine
    else if isBlank || !here.opened.isEmpty then lexemesWithin limit false here start.rest
    else match lineShift here.levels start.indent with
      | .same => lexemesWithin limit false here start.rest
      | .deeper =>
        here.lexeme .indent s ::
          lexemesWithin limit false { here with levels := start.indent :: here.levels } start.rest
      | .back levels => lexemesWithin limit false { here with levels := levels } start.rest
      | .misfit => here.stopped .unexpectedIndent
  | _, false, here, [] => here.finished
  | limit + 1, false, here, c :: s =>
    if isSpace c then lexemesWithin limit false here s
    else if c = '#' then lexemesWithin limit false here (s.dropWhile (· != '\n'))
    else if c = '\n' then
      let next := lexemesWithin limit true { here with line := here.line + 1 } s
      if here.opened.isEmpty && !here.fresh then here.lexeme .lineEnd s :: next else next
    else if c = '\\' then
      match s with
      | ['\n'] => here.stopped .unfinishedLine
      | '\n' :: rest => lexemesWithin limit false { here.filled with line := here.line + 1 } rest
      | _ => here.stopped .afterBackslash
    else if isPlainDigit c || (c = '.' && (s.head?.map isPlainDigit).getD false) then
      match number (c :: s) with
      | .ok (value, rest) =>
        here.lexeme (.number value) rest :: lexemesWithin limit false here.filled rest
      | .error why => here.faulty why
    else if c = '\'' || c = '"' then
      match afterQuote c here.line s with
      | .ok found =>
        here.stringLexeme plainString found.content s ::
          lexemesWithin limit false { here.filled with line := found.line } found.rest
      | .error why => here.faulty why
    else if isWordPart c then
      let word := c :: s.takeWhile isWordPart
      let rest := s.dropWhile isWordPart
      match markedString? word here.line rest with
      | some (kind, .ok found) =>
        here.stringLexeme kind found.content (rest.drop 1) ::
          lexemesWithin limit false { here.filled with line := found.line } found.rest
      | some (_, .error why) => here.faulty why
      | none =>
        match strangePart? word with
        | some d => here.faulty (.badCharacter d)
        | none => here.lexeme (.word word) rest :: lexemesWithin limit false here.filled rest
    else if opensBracket c then
      if depthLimit ≤ here.opened.length then here.faulty .tooDeep
      else
        let inner := { here.filled with opened := (c, here.line) :: here.opened }
        inner.lexeme (.symbol [c]) s :: lexemesWithin limit false inner s
    else match opener? c, here.opened with
      | some _, [] => here.faulty (.unmatched c)
      | some bracket, (last, start) :: outer =>
        if last = bracket then
          let outside := { here.filled with opened := outer }
          outside.lexeme (.symbol [c]) s :: lexemesWithin limit false outside s
        else here.faulty (.mismatched c last (if start = here.line then none else some start))
      | none, _ =>
        if !isPrintable c then here.faulty (.badCharacter c)
        else
          let symbol := symbolAt c s
          let rest := (c :: s).drop symbol.length
          here.lexeme (.symbol symbol) rest :: lexemesWithin limit false here.filled rest

/-- The tokens of a text whose first line has the given number. There are not more steps than
characters and lines, and one. -/
def lexemes (line : Nat) (s : Text) : List Lexeme :=
  let text := unifyBreaks s
  lexemesWithin (2 * text.length + 2) true ⟨[], [], line, true⟩ text

end Argument

end LinearProgram
