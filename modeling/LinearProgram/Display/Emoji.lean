import LinearProgram.Text.Blank
import LinearProgram.Text.LowerCase

/-!
# Emoji codes

A code is a name between two colons, without blanks. If it is the name of an emoji, in small letters
or capitals, the emoji is shown in place of the code, and else the code is shown as it is written.
The endings `-text` and `-emoji` are no part of the name; they ask for one of two forms.

A text is read from its beginning (`Emoji.partsFrom`). A colon begins a code and the next one ends
it, and then begins no other, even if there is no emoji of that name. A blank in between makes text
of what has been begun.

Which emojis there are is left open (`Emoji.Names`).
-/

namespace LinearProgram

namespace Emoji

/-- The emojis by their names. Names are in small letters. -/
abbrev Names := Text → Option Text

/-- No emoji has a colon in it. -/
def Names.Colonless (names : Names) : Prop :=
  ∀ name shown, names name = some shown → ':' ∉ shown

/-- The endings that ask for a form, and the characters that do so behind an emoji. -/
def forms : List (Text × Char) :=
  [("-emoji".toList, Char.ofNat 0xFE0F), ("-text".toList, Char.ofNat 0xFE0E)]

/-- The name in a code, and what stands behind its emoji. -/
def nameAndForm (code : Text) : Text × Text :=
  match forms.find? fun form => form.1.isSuffixOf code with
  | some (ending, c) => (code.take (code.length - ending.length), [c])
  | none => (code, [])

/-- What is shown for a code, if there is such an emoji. -/
def ofCode? (names : Names) (code : Text) : Option Text :=
  let (name, form) := nameAndForm code
  (names name.lower).map (· ++ form)

/-! ## Parts of texts -/

/-- A part of a text: some text without codes, or a code. -/
inductive Part where
  | text (content : Text)
  | code (content : Text)
  deriving DecidableEq

namespace Part

/-- A part as it is written. -/
def written : Part → Text
  | .text content => content
  | .code content => ':' :: (content ++ [':'])

/-- A part as it is shown. -/
def shown (names : Names) : Part → Text
  | .text content => content
  | .code content => (ofCode? names content).getD (':' :: (content ++ [':']))

/-- The code that a part is. -/
def code? : Part → Option Text
  | .text _ => none
  | .code content => some content

end Part

/-- The parts of a text behind a code that has been begun, or behind none. -/
def partsFrom : Option Text → Text → List Part
  | none, [] => []
  | some begun, [] => [.text (':' :: begun)]
  | none, c :: s => if c = ':' then partsFrom (some []) s else .text [c] :: partsFrom none s
  | some begun, c :: s =>
    if c = ':' then .code begun :: partsFrom none s
    else if isBlank c then .text (':' :: (begun ++ [c])) :: partsFrom none s
    else partsFrom (some (begun ++ [c])) s

/-- The parts of a text. -/
def parts (s : Text) : List Part := partsFrom none s

/-- The codes in a text. -/
def codes (s : Text) : List Text := (parts s).filterMap Part.code?

/-- The text with its emojis. -/
def replace (names : Names) (s : Text) : Text := (parts s).flatMap (Part.shown names)

end Emoji

end LinearProgram
