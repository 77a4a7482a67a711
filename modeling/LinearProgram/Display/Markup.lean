import LinearProgram.Display.Argument.Value
import LinearProgram.Display.Emoji
import LinearProgram.Display.Screen
import LinearProgram.Display.Style

/-!
# Style markup

Text with tags in brackets: `[red]` begins a style, `[/red]` ends it, and `[/]` ends the one begun
last. What begins with a small letter or one of `#`, `/` and `@` after its bracket and reaches a
closing bracket without another opening one is a tag; all other brackets are text. A backslash
before a tag makes text of it, and a pair of backslashes there is one backslash; a backslash before
any other opening bracket vanishes.

**Parameters.** What follows an equals sign in a tag goes on with the description of its style. In
a tag that begins with `@` it is the argument of an action, which is looked at when the tag ends.

Only the text remains after rendering, with its emojis. Their codes are looked for in one piece of
text after the other: a code does not reach beyond a tag, whether that is a tag or text.

A tag that ends a style that has not been begun is a fault; two descriptions of one style count as
the same there. A style has to be described well only if there is text to show in it.
`Markup.escape` prepares a text that is to be shown with its tags.
-/

namespace LinearProgram

namespace Markup

/-- Why a text cannot be rendered: a tag ends nothing, the argument of an action has no value, or a
part of a color is empty. -/
inductive Fault where
  | unmatched (tag : Text) (position : Nat)
  | nothingToClose (position : Nat)
  | badArgument (argument parameters : Text) (why : Argument.Fault)
  | emptyPart
  deriving DecidableEq

/-- What is said of a text that cannot be rendered. -/
def Fault.message : Fault → String
  | .unmatched tag position =>
    "closing tag '[" ++ String.ofList tag ++ "]' at position " ++ toString position ++
      " doesn't match any open tag"
  | .nothingToClose position =>
    "closing tag '[/]' at position " ++ toString position ++ " has nothing to close"
  | .badArgument argument parameters why =>
    if why.isSyntactic then
      "error parsing " ++ quoted argument ++ " in " ++ quoted parameters ++ "; " ++ why.message
    else "error parsing " ++ quoted parameters ++ "; " ++ why.message
  | .emptyPart => "invalid literal for int() with base 10: ''"

/-- A piece of text, or a tag with the position at which it stands. Some texts are one with their
neighbours. -/
inductive Piece where
  | text (content : Text) (joins : Bool)
  | tag (content : Text) (position : Nat)
  deriving DecidableEq

/-- Characters with which the content of a tag begins. -/
def opensTag (c : Char) : Bool := ('a' ≤ c && c ≤ 'z') || c = '#' || c = '/' || c = '@'

/-- The content of the tag at the beginning of a text, and the rest. -/
def tagAt? : Text → Option (Text × Text)
  | '[' :: c :: s =>
    if opensTag c then
      match s.dropWhile fun d => d != ']' && d != '[' with
      | ']' :: rest => some (c :: s.takeWhile fun d => d != ']' && d != '[', rest)
      | _ => none
    else none
  | _ => none

/-- The tag at the beginning of a text after backslashes: their number, the content and the
rest. -/
def escapedTagAt? (s : Text) : Option (Nat × Text × Text) :=
  let slashes := (s.takeWhile (· = '\\')).length
  (tagAt? (s.drop slashes)).map fun (content, rest) => (slashes, content, rest)

/-- Takes a text that stands at `position` apart while the limit lasts, which every piece lowers by
one. -/
def piecesWithin : Nat → Nat → Text → List Piece
  | 0, _, _ => []
  | _, _, [] => []
  | limit + 1, position, c :: s =>
    match escapedTagAt? (c :: s) with
    | some (slashes, content, rest) =>
      let tag : Piece :=
        if slashes % 2 = 1 then .text ('[' :: (content ++ [']'])) false
        else .tag content (position + slashes)
      .text (List.replicate (slashes / 2) '\\') false :: tag ::
        piecesWithin limit (position + slashes + content.length + 2) rest
    | none =>
      let shown := if c = '\\' && s.head? = some '[' then [] else [c]
      .text shown true :: piecesWithin limit (position + 1) s

/-- Pieces with one more before them. -/
def Piece.before : Piece → List Piece → List Piece
  | .text content true, .text more true :: rest => .text (content ++ more) true :: rest
  | piece, rest => piece :: rest

/-- The pieces of a text; there are not more steps than characters. -/
def pieces (s : Text) : List Piece := (piecesWithin s.length 0 s).foldr Piece.before []

/-! ## Open tags -/

/-- A tag that has been begun: its name in the fixed form, and what follows an equals sign. -/
structure Tag where
  name : Text
  parameters : Option Text
  deriving DecidableEq

namespace Tag

/-- The tag with the given content. An empty part of a color in its name is not forgiven. -/
def ofContent (content : Text) : Except Fault Tag :=
  match Style.normalName? (content.takeWhile (· != '=')) with
  | none => .error .emptyPart
  | some name =>
    match content.dropWhile (· != '=') with
    | [] => .ok ⟨name, none⟩
    | _ :: parameters => .ok ⟨name, some parameters⟩

/-- The description of the style of a tag. -/
def description (tag : Tag) : Text :=
  match tag.parameters with
  | none => tag.name
  | some parameters => tag.name ++ ' ' :: parameters

/-- Whether there is an empty part in a color of the style. Other mistakes make it no style, which
is no fault. -/
def hasEmptyPart (tag : Tag) : Bool :=
  match Style.ofDescription tag.description with
  | .error .emptyPart => true
  | _ => false

/-- The argument in the parameters of an action: what stands in parentheses after the dotted name of
a function, nothing in parentheses if there is only a name, and else all of it. -/
def argumentOf (parameters : Text) : Text :=
  let inName := fun c : Char => isWord c || c = '.'
  let all := Text.trim parameters
  let rest := all.dropWhile inName
  if rest.isEmpty then ['(', ')']
  else if rest.head? = some '(' && rest.getLast? = some ')' && !rest.contains '\n' then rest
  else all

/-- The fault that appears when a tag ends. -/
def closingFault? (tag : Tag) : Option Fault :=
  match tag.name, tag.parameters with
  | '@' :: _, some parameters =>
    if parameters.isEmpty then none
    else
      let argument := argumentOf parameters
      (Argument.fault? argument).map (.badArgument argument parameters)
  | _, _ => none

end Tag

/-! ## Rendering -/

/-- A stretch of text and the tags that are open there. -/
structure Stretch where
  content : Text
  tags : List Tag
  deriving DecidableEq

/-- Whether there is something to show in a style with an empty part of a color. -/
def Stretch.hasEmptyPart (stretch : Stretch) : Bool :=
  (stretch.content.any fun c => !Screen.isSilent c && c != '\n') &&
    stretch.tags.any Tag.hasEmptyPart

/-- The open tags after the end of one of them. -/
def closeTag (tags : List Tag) (tag : Tag) : Except Fault (List Tag) :=
  match tag.closingFault? with
  | some fault => .error fault
  | none => .ok (tags.erase tag)

/-- The open tags after a tag with the given content. A closing tag ends the last one of its name,
or the last one if it gives none. -/
def tagsAfter (tags : List Tag) (content : Text) (position : Nat) : Except Fault (List Tag) :=
  match content.takeWhile (· != '=') with
  | '/' :: closed =>
    if (Text.trim closed).isEmpty then
      match tags with
      | [] => .error (.nothingToClose position)
      | tag :: _ => closeTag tags tag
    else match Style.normalName? closed with
      | none => .error .emptyPart
      | some name =>
        match tags.find? (·.name == name) with
        | none => .error (.unmatched content position)
        | some tag => closeTag tags tag
  | _ =>
    match Tag.ofContent content with
    | .error fault => .error fault
    | .ok tag => .ok (tag :: tags)

/-- The stretches of pieces under the tags that are open, the last one first. -/
def stretches (emojis : Emoji.Names) : List Tag → List Piece → Except Fault (List Stretch)
  | _, [] => .ok []
  | tags, .text content _ :: rest =>
    match stretches emojis tags rest with
    | .ok list => .ok (⟨Emoji.replace emojis content, tags⟩ :: list)
    | .error fault => .error fault
  | tags, .tag content position :: rest =>
    match tagsAfter tags content position with
    | .ok tags => stretches emojis tags rest
    | .error fault => .error fault

/-- The text that remains of a text with tags. -/
def render (emojis : Emoji.Names) (s : Text) : Except Fault Text :=
  match stretches emojis [] (pieces s) with
  | .error fault => .error fault
  | .ok list =>
    if list.any Stretch.hasEmptyPart then .error .emptyPart
    else .ok (list.flatMap (·.content))

/-! ## Escaping -/

/-- Escapes the tags in a text while the limit lasts, which every step lowers by one. -/
def escapeWithin : Nat → Text → Text
  | 0, _ => []
  | _, [] => []
  | limit + 1, c :: s =>
    match escapedTagAt? (c :: s) with
    | some (slashes, content, rest) =>
      List.replicate (2 * slashes + 1) '\\' ++ '[' :: (content ++ ']' :: escapeWithin limit rest)
    | none => c :: escapeWithin limit s

/-- A text whose tags are shown as they are: one more backslash before each of them, and twice as
many as stand there already. A single backslash at the end is doubled, because a tag may follow
it. -/
def escape (s : Text) : Text :=
  let escaped := escapeWithin s.length s
  match escaped.reverse with
  | ['\\'] => escaped ++ ['\\']
  | '\\' :: c :: _ => if c = '\\' then escaped else escaped ++ ['\\']
  | _ => escaped

end Markup

end LinearProgram
