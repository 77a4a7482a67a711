import LinearProgram.Text.Blank
import LinearProgram.Text.LineBreak

/-!
# Settings files

A settings file holds lines `KEY=value`, with quotes, comments and the word `export` where they are
wanted. A line that makes no sense is passed over.

**Values.** Between quotes a value may go on over several lines, and a backslash and a letter stand
for a character that could not be written otherwise. Elsewhere a value ends with its line, or before
a comment, which begins with a blank and a number sign.

**References.** In every value, `$` and a name in braces stand for the value of that name: in the
environment, or else as it was bound further up in the file. After `:-` the braces may hold what to
take when there is neither.
-/

namespace LinearProgram

/-- An environment: the variables that are set, and their values. -/
abbrev Environment := List (Text × Text)

/-- The value of a variable, if it is set. -/
def Environment.get? (env : Environment) (key : Text) : Option Text :=
  (env.find? (·.1 == key)).map (·.2)

namespace SettingsFile

/-- A line of a settings file: a key, and its value if there is an equals sign. -/
structure Binding where
  key : Text
  value : Option Text
  deriving DecidableEq

/-! ## Values -/

/-- Line breaks. -/
def isBreak (c : Char) : Bool := c = '\n'

/-- Blanks other than line breaks. -/
def isGap (c : Char) : Bool := isBlank c && !isBreak c

/-- Removes blanks up to the next line break. -/
def skipGap (s : Text) : Text := s.dropWhile isGap

/-- What stands before the first quote that does not belong to a backslash, and what follows it. A
backslash takes the next character with it, and has to have one on its line. -/
def atQuote? (quote : Char) : Text → Option (Text × Text)
  | [] => none
  | [c] => if c = quote then some ([], []) else none
  | c :: d :: s =>
    if c = quote then some ([], d :: s)
    else if c = '\\' then
      if isBreak d then none
      else (atQuote? quote s).map fun (value, rest) => (c :: d :: value, rest)
    else (atQuote? quote (d :: s)).map fun (value, rest) => (c :: value, rest)

/-- Replaces backslashes and what follows them by the characters that are meant. A backslash before
any other character stands for itself. -/
def unescape (escapes : List (Char × Char)) : Text → Text
  | [] => []
  | [c] => [c]
  | c :: d :: s =>
    if c = '\\' then
      match escapes.find? (·.1 == d) with
      | some (_, meant) => meant :: unescape escapes s
      | none => c :: unescape escapes (d :: s)
    else c :: unescape escapes (d :: s)

/-- The value after an opening quote, and what follows the closing one. -/
def quotedValue? (quote : Char) (escapes : List (Char × Char)) (s : Text) :
    Option (Text × Text) :=
  (atQuote? quote s).map fun (value, rest) => (unescape escapes value, rest)

/-- What stands for what behind a backslash between apostrophes. -/
def apostropheEscapes : List (Char × Char) := [('\\', '\\'), ('\'', '\'')]

/-- What stands for what behind a backslash between double quotes. -/
def doubleQuoteEscapes : List (Char × Char) :=
  [('\\', '\\'), ('\'', '\''), ('"', '"'), ('a', '\x07'), ('b', '\x08'), ('f', '\x0c'),
   ('n', '\n'), ('r', '\r'), ('t', '\t'), ('v', '\x0b')]

/-- The text up to the first comment, which begins with blanks and a number sign. -/
def beforeComment : Text → Text
  | [] => []
  | c :: s =>
    if isBlank c && (Text.trimStart s).head? = some '#' then [] else c :: beforeComment s

/-- The value behind an equals sign, and the rest. -/
def value? (s : Text) : Option (Text × Text) :=
  match skipGap s with
  | '\'' :: rest => quotedValue? '\'' apostropheEscapes rest
  | '"' :: rest => quotedValue? '"' doubleQuoteEscapes rest
  | _ => some (Text.trim (beforeComment (s.takeWhile (!isBreak ·))), s.dropWhile (!isBreak ·))

/-! ## Lines -/

/-- The text after the word `export` and blanks, if it begins so. -/
def afterExport (s : Text) : Text :=
  match Text.afterPrefix? ['e', 'x', 'p', 'o', 'r', 't'] s with
  | some (c :: rest) => if isGap c then skipGap rest else s
  | _ => s

/-- The key at the beginning, and the rest. -/
def key? (s : Text) : Option (Text × Text) :=
  match s with
  | '\'' :: rest =>
    let key := rest.takeWhile (· != '\'')
    if key.isEmpty then none
    else match rest.dropWhile (· != '\'') with
      | [] => none
      | _ :: rest => some (key, rest)
  | _ =>
    let inKey := fun c : Char => c != '=' && c != '#' && !isBlank c
    let key := s.takeWhile inKey
    if key.isEmpty then none else some (key, s.dropWhile inKey)

/-- What is left of a line that has been read to its end: nothing, or a comment. -/
def endsLine (s : Text) : Bool :=
  match skipGap s with
  | [] => true
  | c :: _ => c = '#' || isBreak c

/-- The binding at the beginning of a text, and the rest of the text from the end of the line on.
A line that makes no sense binds nothing. -/
def binding (s : Text) : Option Binding × Text :=
  match key? (afterExport s) with
  | none => (none, s)
  | some (key, rest) =>
    match skipGap rest with
    | '=' :: rest =>
      match value? rest with
      | none => (none, rest)
      | some (value, rest) =>
        if endsLine rest then (some ⟨key, some value⟩, rest) else (none, rest)
    | rest => if endsLine rest then (some ⟨key, none⟩, rest) else (none, rest)

/-- Reads bindings while the limit lasts, which each line lowers by one. -/
def bindingsWithin : Nat → Text → List Binding
  | 0, _ => []
  | limit + 1, s =>
    match Text.trimStart s with
    | [] => []
    | c :: s =>
      let (found, rest) := binding (c :: s)
      found.toList ++ bindingsWithin limit (rest.dropWhile (!isBreak ·))

/-- The text without the mark of its byte order at the beginning. -/
def withoutByteOrderMark : Text → Text
  | [] => []
  | c :: s => if c.toNat = 0xFEFF then s else c :: s

/-- The bindings of a settings file, in order. A binding ends at a line break, so there are not
more of them than there are line breaks, and one. -/
def bindings (text : Text) : List Binding :=
  bindingsWithin (text.length + 1) (unifyBreaks (withoutByteOrderMark text))

/-! ## References -/

/-- A part of a value: characters as they are, or a reference. -/
inductive Part where
  | plain (c : Char)
  | reference (name : Text) (fallback : Text)
  deriving DecidableEq

/-- The reference at the beginning of a text, and the rest. -/
def reference? : Text → Option (Part × Text)
  | '$' :: '\x7b' :: s =>
    let inName := fun c : Char => c != '\x7d' && c != ':'
    let name := s.takeWhile inName
    match s.dropWhile inName with
    | '\x7d' :: rest => some (.reference name [], rest)
    | ':' :: '-' :: rest =>
      match rest.dropWhile (· != '\x7d') with
      | [] => none
      | _ :: after => some (.reference name (rest.takeWhile (· != '\x7d')), after)
    | _ => none
  | _ => none

/-- Takes a value apart while the limit lasts, which every part lowers by one. -/
def partsWithin : Nat → Text → List Part
  | 0, _ => []
  | _, [] => []
  | limit + 1, c :: s =>
    match reference? (c :: s) with
    | some (part, rest) => part :: partsWithin limit rest
    | none => .plain c :: partsWithin limit s

/-- The parts of a value; there are not more of them than characters. -/
def parts (value : Text) : List Part := partsWithin value.length value

/-- What a name stands for: its value in the environment, or else the one that the file has given
it last. A name without a value stands for the empty text. -/
def meaning? (env : Environment) (bound : List Binding) (name : Text) : Option Text :=
  match env.get? name with
  | some value => some value
  | none => (bound.reverse.find? (·.key == name)).map fun b => b.value.getD []

/-- What a part stands for. -/
def Part.expand (env : Environment) (bound : List Binding) : Part → Text
  | .plain c => [c]
  | .reference name fallback => (meaning? env bound name).getD fallback

/-- A binding whose references have been replaced. -/
def Binding.expand (env : Environment) (bound : List Binding) (b : Binding) : Binding :=
  ⟨b.key, b.value.map fun value => (parts value).flatMap (Part.expand env bound)⟩

/-- Replaces the references in bindings, one binding after the other. -/
def expandAll (env : Environment) (list : List Binding) : List Binding :=
  list.foldl (fun bound b => bound ++ [b.expand env bound]) []

/-- The names that bindings refer to. -/
def referredNames (list : List Binding) : List Text :=
  list.flatMap fun b => (parts (b.value.getD [])).filterMap fun
    | .plain _ => none
    | .reference name _ => some name

/-- The value that the last binding of a key gives it. -/
def get? (list : List Binding) (key : Text) : Option Text :=
  (list.reverse.find? (·.key == key)).bind (·.value)

/-- The keys of bindings, each where it occurs first. -/
def keys (list : List Binding) : List Text := (list.map (·.key)).eraseDups

/-- The variables that bindings set: those that the environment leaves unset and that have a
value. -/
def settings (env : Environment) (list : List Binding) : List (Text × Text) :=
  ((keys list).filter fun key => (env.get? key).isNone).filterMap fun key =>
    (get? list key).map fun value => (key, value)

end SettingsFile

end LinearProgram
