import LinearProgram.Text.Quoted

/-!
# Faults of arguments

Why an argument has no value. Most faults lie in how it is written, and these are told by what is
wrong and not where (`Fault.isSyntactic`); a few lie in what it means.

**Insertions.** A formatted string holds expressions between braces. A fault that is noticed while
such an expression is read says so (`Fault.inInsertion`), and one in an expression within such an
expression says so twice. Faults in a token are told as they are.
-/

namespace LinearProgram

namespace Argument

/-- What is wrong with an escape in a string. -/
inductive EscapeFault where
  /-- There are fewer hexadecimal digits after the letter than it asks for. -/
  | truncated (letter : Char)
  /-- The number is no code point. -/
  | noCodePoint
  /-- There is no name in braces. -/
  | noName
  | unknownName
  deriving DecidableEq

/-- What is said of an escape. -/
def EscapeFault.message : EscapeFault → String
  | .truncated letter =>
    let digits := if letter = 'x' then "XX" else if letter = 'u' then "XXXX" else "XXXXXXXX"
    "truncated \\" ++ letter.toString ++ digits ++ " escape"
  | .noCodePoint => "illegal Unicode character"
  | .noName => "malformed \\N character escape"
  | .unknownName => "unknown Unicode character name"

/-- Why an argument has no value. -/
inductive Fault where
  -- Tokens.
  | afterBackslash
  | unfinishedLine
  | unmatched (closing : Char)
  /-- A bracket closes one of another kind, which stands on an earlier line if that is given. -/
  | mismatched (closing opening : Char) (line : Option Nat)
  | neverClosed (opening : Char)
  | tooDeep
  | unterminated (line : Nat)
  | unterminatedBlock (line : Nat)
  | badNumber (kind : String)
  | badDigit (digit : Char) (kind : String)
  | leadingZeros
  | badCharacter (c : Char)
  | nullCharacter
  | unexpectedIndent
  -- Numbers and strings.
  | tooManyDigits (count : Nat)
  | mixedStrings
  | wideByte
  | badByteEscape (position : Nat)
  | badEscape (first last : Nat) (why : EscapeFault)
  -- Insertions in formatted strings.
  | inInsertion (why : Fault)
  | loneBrace
  | emptyInsertion
  | nothingBefore (mark : Char)
  | backslashInInsertion
  | commentInInsertion
  | unmatchedInInsertion (bracket : Char)
  | mismatchedInInsertion (closing opening : Char)
  | tooDeepInInsertion
  | unterminatedInInsertion
  | nestedInsertions
  | badConversion
  | unfinishedInsertion
  -- Expressions.
  | invalid
  | forgottenComma
  | missingParentheses (word : Text)
  | missingElse
  | assignment
  | assignmentHere (what : String)
  | assignmentTo (what : String)
  | bindingOf (what : String)
  | emptyStar
  | starred
  | doubleStarred
  | starredValue
  | missingValue
  | missingColon
  | unpackingInside
  | doubleUnpackingInside
  | bareTarget
  -- What is given to functions.
  | equalityMeant
  | bareGenerator
  | positionalAfterNamed
  | positionalAfterUnpacking
  | unpackingAfterNamed
  -- Parameters of functions.
  | missingDefault
  | defaultNeeded
  | parenthesizedParameters
  | emptyBeforeSlash
  | repeatedSlash
  | slashAfterStar
  | slashBeforeStar
  | nothingAfterStar
  | defaultOfRest
  | repeatedStar
  | defaultOfNamedRest
  | afterNamedRest
  -- Meaning.
  /-- A member of a set or a key that cannot be one, because it can change. -/
  | unhashable (kind : String)
  /-- A whole number that is too large for a part of a complex one. -/
  | tooLarge
  /-- Something that is written correctly but is no value. -/
  | notAValue
  deriving DecidableEq

namespace Fault

/-- Whether the fault lies in how the argument is written and not in what it means. -/
def isSyntactic : Fault → Bool
  | .nullCharacter => false
  | .unhashable _ => false
  | .tooLarge => false
  | .notAValue => false
  | _ => true

/-- A code point in capital hexadecimal, with four digits at least. -/
def codePoint (c : Char) : String :=
  String.ofList (['U', '+'] ++ (hexadecimal 4 c.toNat).map Char.toUpper)

/-- The longest whole number in decimal digits that is read. -/
def digitLimit : Nat := 4300

/-- What is said of an argument that has no value. -/
def message : Fault → String
  | .afterBackslash => "unexpected character after line continuation character"
  | .unfinishedLine => "unexpected EOF while parsing"
  | .unmatched closing => "unmatched '" ++ closing.toString ++ "'"
  | .mismatched closing opening line =>
    "closing parenthesis '" ++ closing.toString ++ "' does not match opening parenthesis '" ++
      opening.toString ++ "'" ++
      match line with
      | some number => " on line " ++ toString number
      | none => ""
  | .neverClosed opening => "'" ++ opening.toString ++ "' was never closed"
  | .tooDeep => "too many nested parentheses"
  | .unterminated line => "unterminated string literal (detected at line " ++ toString line ++ ")"
  | .unterminatedBlock line =>
    "unterminated triple-quoted string literal (detected at line " ++ toString line ++ ")"
  | .badNumber kind => "invalid " ++ kind ++ " literal"
  | .badDigit digit kind =>
    "invalid digit '" ++ digit.toString ++ "' in " ++ kind ++ " literal"
  | .leadingZeros =>
    "leading zeros in decimal integer literals are not permitted; " ++
      "use an 0o prefix for octal integers"
  | .badCharacter c =>
    if isPrintable c then "invalid character '" ++ c.toString ++ "' (" ++ codePoint c ++ ")"
    else "invalid non-printable character " ++ codePoint c
  | .nullCharacter => "source code string cannot contain null bytes"
  | .unexpectedIndent => "unexpected indent"
  | .tooManyDigits count =>
    "Exceeds the limit (" ++ toString digitLimit ++ " digits) for integer string conversion: " ++
      "value has " ++ toString count ++ " digits; use sys.set_int_max_str_digits() to increase " ++
      "the limit - Consider hexadecimal for huge integer literals to avoid decimal conversion " ++
      "limits."
  | .mixedStrings => "cannot mix bytes and nonbytes literals"
  | .wideByte => "bytes can only contain ASCII literal characters"
  | .badByteEscape position =>
    "(value error) invalid \\x escape at position " ++ toString position
  | .badEscape first last why =>
    "(unicode error) 'unicodeescape' codec can't decode bytes in position " ++ toString first ++
      "-" ++ toString last ++ ": " ++ why.message
  | .inInsertion why => "f-string: " ++ why.message
  | .loneBrace => "f-string: single '\x7d' is not allowed"
  | .emptyInsertion => "f-string: empty expression not allowed"
  | .nothingBefore mark => "f-string: expression required before '" ++ mark.toString ++ "'"
  | .backslashInInsertion => "f-string expression part cannot include a backslash"
  | .commentInInsertion => "f-string expression part cannot include '#'"
  | .unmatchedInInsertion bracket => "f-string: unmatched '" ++ bracket.toString ++ "'"
  | .mismatchedInInsertion closing opening =>
    "f-string: closing parenthesis '" ++ closing.toString ++
      "' does not match opening parenthesis '" ++ opening.toString ++ "'"
  | .tooDeepInInsertion => "f-string: too many nested parenthesis"
  | .unterminatedInInsertion => "f-string: unterminated string"
  | .nestedInsertions => "f-string: expressions nested too deeply"
  | .badConversion => "f-string: invalid conversion character: expected 's', 'r', or 'a'"
  | .unfinishedInsertion => "f-string: expecting '\x7d'"
  | .invalid => "invalid syntax"
  | .forgottenComma => "invalid syntax. Perhaps you forgot a comma?"
  | .missingParentheses word =>
    "Missing parentheses in call to '" ++ String.ofList word ++ "'. Did you mean " ++
      String.ofList word ++ "(...)?"
  | .missingElse => "expected 'else' after 'if' expression"
  | .assignment => "invalid syntax. Maybe you meant '==' or ':=' instead of '='?"
  | .assignmentHere what =>
    "cannot assign to " ++ what ++ " here. Maybe you meant '==' instead of '='?"
  | .assignmentTo what => "cannot assign to " ++ what
  | .bindingOf what => "cannot use assignment expressions with " ++ what
  | .emptyStar => "Invalid star expression"
  | .starred => "cannot use starred expression here"
  | .doubleStarred => "cannot use double starred expression here"
  | .starredValue => "cannot use a starred expression in a dictionary value"
  | .missingValue => "expression expected after dictionary key and ':'"
  | .missingColon => "':' expected after dictionary key"
  | .unpackingInside => "iterable unpacking cannot be used in comprehension"
  | .doubleUnpackingInside => "dict unpacking cannot be used in dict comprehension"
  | .bareTarget => "did you forget parentheses around the comprehension target?"
  | .equalityMeant => "expression cannot contain assignment, perhaps you meant \"==\"?"
  | .bareGenerator => "Generator expression must be parenthesized"
  | .positionalAfterNamed => "positional argument follows keyword argument"
  | .positionalAfterUnpacking => "positional argument follows keyword argument unpacking"
  | .unpackingAfterNamed => "iterable argument unpacking follows keyword argument unpacking"
  | .missingDefault => "expected default value expression"
  | .defaultNeeded => "non-default argument follows default argument"
  | .parenthesizedParameters => "Lambda expression parameters cannot be parenthesized"
  | .emptyBeforeSlash => "at least one argument must precede /"
  | .repeatedSlash => "/ may appear only once"
  | .slashAfterStar => "/ must be ahead of *"
  | .slashBeforeStar => "expected comma between / and *"
  | .nothingAfterStar => "named arguments must follow bare *"
  | .defaultOfRest => "var-positional argument cannot have default value"
  | .repeatedStar => "* argument may appear only once"
  | .defaultOfNamedRest => "var-keyword argument cannot have default value"
  | .afterNamedRest => "arguments cannot follow var-keyword argument"
  | .unhashable kind => "unhashable type: '" ++ kind ++ "'"
  | .tooLarge => "int too large to convert to float"
  | .notAValue => "malformed node or string: None"

end Fault

end Argument

end LinearProgram
