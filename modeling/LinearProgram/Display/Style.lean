import LinearProgram.Text.Blank
import LinearProgram.Text.Digit
import LinearProgram.Text.LowerCase

/-!
# Styles

A style is described in words: features, possibly with `not` before them, a color, a background
after `on`, and an address after `link`. Later words win over earlier ones.

Different descriptions may mean the same style. `Style.describe` writes a style in one fixed way, so
descriptions are compared by what they are written as (`Style.normalName?`).
-/

namespace LinearProgram

namespace Style

/-! ## Features -/

/-- What a style can switch on or off. -/
inductive Feature where
  | bold
  | dim
  | italic
  | underline
  | blink
  | fastBlink
  | reverse
  | conceal
  | strike
  | doubleUnderline
  | frame
  | encircle
  | overline
  deriving DecidableEq

namespace Feature

/-- All features, in the order in which they are written. -/
def all : List Feature :=
  [bold, dim, italic, underline, blink, fastBlink, reverse, conceal, strike, doubleUnderline, frame,
   encircle, overline]

/-- The word for a feature. -/
def word : Feature → String
  | bold => "bold"
  | dim => "dim"
  | italic => "italic"
  | underline => "underline"
  | blink => "blink"
  | fastBlink => "blink2"
  | reverse => "reverse"
  | conceal => "conceal"
  | strike => "strike"
  | doubleUnderline => "underline2"
  | frame => "frame"
  | encircle => "encircle"
  | overline => "overline"

/-- The short word for a feature, if there is one. -/
def shortWord? : Feature → Option String
  | bold => some "b"
  | dim => some "d"
  | italic => some "i"
  | underline => some "u"
  | reverse => some "r"
  | conceal => some "c"
  | strike => some "s"
  | doubleUnderline => some "uu"
  | overline => some "o"
  | _ => none

/-- The feature that a word names. -/
def ofWord? (s : Text) : Option Feature :=
  all.find? fun feature =>
    feature.word == String.ofList s || feature.shortWord? == some (String.ofList s)

end Feature

/-! ## Colors -/

/-- The names of colors that have no number at their end. -/
def plainColors : List String :=
  ["default", "black", "red", "green", "yellow", "blue", "magenta", "cyan", "white",
   "bright_black", "bright_red", "bright_green", "bright_yellow", "bright_blue", "bright_magenta",
   "bright_cyan", "bright_white", "navy_blue", "dark_blue", "dark_green", "dark_cyan",
   "light_sea_green", "dark_turquoise", "medium_spring_green", "dark_red", "blue_violet",
   "steel_blue", "cornflower_blue", "cadet_blue", "medium_turquoise", "dark_magenta", "dark_violet",
   "purple", "light_slate_grey", "light_slate_gray", "medium_purple", "light_slate_blue",
   "dark_sea_green", "light_green", "medium_violet_red", "indian_red", "medium_orchid",
   "dark_goldenrod", "rosy_brown", "dark_khaki", "light_steel_blue", "green_yellow", "orchid",
   "violet", "tan", "hot_pink", "dark_orange", "light_coral", "sandy_brown"]

/-- The names of colors that are told apart by a number at their end, and the numbers. -/
def numberedColors : List (String × List Nat) :=
  [("blue", [1, 3]), ("deep_sky_blue", [1, 2, 3, 4]), ("dodger_blue", [1, 2, 3]),
   ("green", [1, 3, 4]), ("spring_green", [1, 2, 3, 4]), ("turquoise", [2, 4]),
   ("cyan", [1, 2, 3]), ("deep_pink", [1, 2, 3, 4]), ("purple", [3, 4]), ("orange", [1, 3, 4]),
   ("medium_purple", [1, 2, 3, 4]), ("slate_blue", [1, 3]), ("royal_blue", [1]),
   ("chartreuse", [1, 2, 3, 4]), ("dark_sea_green", [1, 2, 3, 4]), ("pale_turquoise", [1, 4]),
   ("steel_blue", [1, 3]), ("sky_blue", [1, 2, 3]), ("pale_green", [1, 3]),
   ("sea_green", [1, 2, 3]), ("aquamarine", [1, 3]), ("dark_slate_gray", [1, 2, 3]),
   ("light_pink", [1, 3, 4]), ("plum", [1, 2, 3, 4]), ("yellow", [1, 2, 3, 4]), ("wheat", [1, 4]),
   ("dark_olive_green", [1, 2, 3]), ("light_sky_blue", [1, 3]), ("red", [1, 3]),
   ("magenta", [1, 2, 3]), ("dark_orange", [3]), ("hot_pink", [2, 3]), ("medium_orchid", [1, 3]),
   ("light_salmon", [1, 3]), ("gold", [1, 3]), ("navajo_white", [1, 3]),
   ("light_steel_blue", [1, 3]), ("light_cyan", [1, 3]), ("pink", [1, 3]),
   ("light_goldenrod", [1, 2, 3]), ("misty_rose", [1, 3]), ("thistle", [1, 3]), ("khaki", [1, 3]),
   ("light_yellow", [3]), ("honeydew", [2]), ("orange_red", [1]), ("indian_red", [1]),
   ("salmon", [1]), ("pale_violet_red", [1]), ("orchid", [1, 2]), ("cornsilk", [1])]

/-- The shades of grey, in per cent. -/
def greyShades : List Nat :=
  [0, 3, 7, 11, 15, 19, 23, 27, 30, 35, 37, 39, 42, 46, 50, 53, 54, 58, 62, 63, 66, 69, 70, 74, 78,
   82, 84, 85, 89, 93, 100]

/-- Whether a word is the name of a color. -/
def isColorName (s : Text) : Bool :=
  let word := String.ofList s
  plainColors.contains word ||
    (numberedColors.any fun (name, numbers) => numbers.any fun n => name ++ toString n == word) ||
    greyShades.any fun n => "grey" ++ toString n == word || "gray" ++ toString n == word

/-- Why words describe no style. -/
inductive Problem where
  /-- A word has no meaning, or one is missing after another. -/
  | notAStyle
  /-- A color is given by three parts, and one of them is empty. -/
  | emptyPart
  deriving DecidableEq

/-- Hexadecimal digits, in lower case. -/
def isHexDigit (c : Char) : Bool := ('0' ≤ c && c ≤ '9') || ('a' ≤ c && c ≤ 'f')

/-- What stands between a word with an opening parenthesis and the closing one. -/
def argument? (word s : Text) : Option Text :=
  match (Text.afterPrefix? (word ++ ['(']) s).map List.reverse with
  | some (')' :: inner) => some inner.reverse
  | _ => none

/-- Checks a color that is given by three parts. -/
def checkParts (parts : List Text) : Except Problem Unit :=
  if parts.length ≠ 3 then .error .notAStyle
  else if parts.any List.isEmpty then .error .emptyPart
  else if parts.any fun part => 255 < digitsValue part then .error .notAStyle
  else .ok ()

/-- Checks whether a word in lower case is a color: a name, six hexadecimal digits, a number, or
three numbers, none above 255. -/
def checkColor (s : Text) : Except Problem Unit :=
  if isColorName s then .ok ()
  else match s with
    | '#' :: digits =>
      if digits.length = 6 && digits.all isHexDigit then .ok () else .error .notAStyle
    | _ =>
      match argument? "color".toList s, argument? "rgb".toList s with
      | some digits, _ =>
        if digits.length ∈ [1, 2, 3] && digits.all Char.isDigit && digitsValue digits ≤ 255 then
          .ok ()
        else .error .notAStyle
      | none, some list =>
        if !list.isEmpty && list.all fun c => isDigit c || c = ',' then
          checkParts (list.splitOn ',')
        else .error .notAStyle
      | none, none => .error .notAStyle

/-- Reads a color, which is named in lower case. -/
def readColor (word : Text) : Except Problem Text :=
  match checkColor (Text.lower word) with
  | .ok () => .ok (Text.lower word)
  | .error problem => .error problem

end Style

/-! ## Styles -/

/-- A style: what it does with each feature, its colors, and the address it links to. -/
structure Style where
  setting : Style.Feature → Option Bool := fun _ => none
  color : Option Text := none
  background : Option Text := none
  link : Option Text := none

namespace Style

/-- The style with a feature switched on or off. -/
def switch (style : Style) (feature : Feature) (on : Bool) : Style :=
  { style with setting := fun other => if other = feature then some on else style.setting other }

/-- Adds what words say to a style. -/
def addWords : Style → List Text → Except Problem Style
  | style, [] => .ok style
  | style, word :: rest =>
    let lowered := Text.lower word
    if lowered = "on".toList then
      match rest with
      | [] => .error .notAStyle
      | color :: rest =>
        match readColor color with
        | .ok name => addWords { style with background := some name } rest
        | .error problem => .error problem
    else if lowered = "not".toList then
      match rest with
      | [] => .error .notAStyle
      | word :: rest =>
        match Feature.ofWord? word with
        | some feature => addWords (style.switch feature false) rest
        | none => .error .notAStyle
    else if lowered = "link".toList then
      match rest with
      | [] => .error .notAStyle
      | address :: rest => addWords { style with link := some address } rest
    else match Feature.ofWord? lowered with
      | some feature => addWords (style.switch feature true) rest
      | none =>
        match readColor lowered with
        | .ok name => addWords { style with color := some name } rest
        | .error problem => .error problem

/-- The words of a description. -/
def wordsOf (s : Text) : List Text :=
  ((s.map fun c => if isBlank c then ' ' else c).splitOn ' ').filter fun word => !word.isEmpty

/-- The style that a description means. The word `none` alone means no style. -/
def ofDescription (s : Text) : Except Problem Style :=
  if Text.trim s = "none".toList then .ok {} else addWords {} (wordsOf s)

/-- The words for what a style does with a feature. -/
def featureWords (style : Style) (feature : Feature) : List Text :=
  match style.setting feature with
  | some true => [feature.word.toList]
  | some false => ["not".toList, feature.word.toList]
  | none => []

/-- The description of a style: its features in their order, the colors and the address. -/
def describe (style : Style) : Text :=
  let background :=
    match style.background with
    | some name => ["on".toList, name]
    | none => []
  let link :=
    match style.link with
    | some address => ["link".toList, address]
    | none => []
  let words := Feature.all.flatMap style.featureWords ++ style.color.toList ++ background ++ link
  if words.isEmpty then "none".toList else [' '].intercalate words

/-- What a style is remembered by: its description in the fixed form, or the description as it is
given, in lower case, if it means no style. An empty part of a color is not forgiven. -/
def normalName? (s : Text) : Option Text :=
  match ofDescription s with
  | .ok style => some style.describe
  | .error .notAStyle => some (Text.lower (Text.trim s))
  | .error .emptyPart => none

end Style

end LinearProgram
