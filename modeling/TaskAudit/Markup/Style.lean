import TaskAudit.Number.Numeral
import TaskAudit.Text.Scan
import TaskAudit.Value

/-!
# Styles

A style is written in words: effects such as `bold`, `not bold` for their absence, a colour, `on`
and another for the background, and `link` and an address. All ways to write a style come to one
plain text.
-/

namespace TaskAudit

/-- A style, as far as its words say: effects that are on or off, and the rest. -/
structure Style where
  effects : List (String × Bool)
  colour : Option String
  background : Option String
  link : Option String
  deriving DecidableEq, Repr

namespace Style

open Text Numeral

/-! ### Colours -/

/-- Shades of grey, by their share of white. -/
def greys : List String :=
  ["0", "37", "53", "63", "69", "84", "100", "3", "7", "11", "15", "19", "23", "27", "30", "35",
    "39", "42", "46", "50", "54", "58", "62", "66", "70", "74", "78", "82", "85", "89", "93"]

/-- Colours that have a name, besides the shades of grey. -/
def colourNames : List String :=
  ["black", "red", "green", "yellow", "blue", "magenta", "cyan", "white", "bright_black",
    "bright_red", "bright_green", "bright_yellow", "bright_blue", "bright_magenta", "bright_cyan",
    "bright_white", "navy_blue", "dark_blue", "blue3", "blue1", "dark_green", "deep_sky_blue4",
    "dodger_blue3", "dodger_blue2", "green4", "spring_green4", "turquoise4", "deep_sky_blue3",
    "dodger_blue1", "green3", "spring_green3", "dark_cyan", "light_sea_green", "deep_sky_blue2",
    "deep_sky_blue1", "spring_green2", "cyan3", "dark_turquoise", "turquoise2", "green1",
    "spring_green1", "medium_spring_green", "cyan2", "cyan1", "dark_red", "deep_pink4", "purple4",
    "purple3", "blue_violet", "orange4", "medium_purple4", "slate_blue3", "royal_blue1",
    "chartreuse4", "dark_sea_green4", "pale_turquoise4", "steel_blue", "steel_blue3",
    "cornflower_blue", "chartreuse3", "cadet_blue", "sky_blue3", "steel_blue1", "pale_green3",
    "sea_green3", "aquamarine3", "medium_turquoise", "chartreuse2", "sea_green2", "sea_green1",
    "aquamarine1", "dark_slate_gray2", "dark_magenta", "dark_violet", "purple", "light_pink4",
    "plum4", "medium_purple3", "slate_blue1", "yellow4", "wheat4", "light_slate_grey",
    "light_slate_gray", "medium_purple", "light_slate_blue", "dark_olive_green3", "dark_sea_green",
    "light_sky_blue3", "sky_blue2", "dark_sea_green3", "dark_slate_gray3", "sky_blue1",
    "chartreuse1", "light_green", "pale_green1", "dark_slate_gray1", "red3", "medium_violet_red",
    "magenta3", "dark_orange3", "indian_red", "hot_pink3", "medium_orchid3", "medium_orchid",
    "medium_purple2", "dark_goldenrod", "light_salmon3", "rosy_brown", "medium_purple1", "gold3",
    "dark_khaki", "navajo_white3", "light_steel_blue3", "light_steel_blue", "yellow3",
    "dark_sea_green2", "light_cyan3", "light_sky_blue1", "green_yellow", "dark_olive_green2",
    "dark_sea_green1", "pale_turquoise1", "deep_pink3", "magenta2", "hot_pink2", "orchid",
    "medium_orchid1", "orange3", "light_pink3", "pink3", "plum3", "violet", "light_goldenrod3",
    "tan", "misty_rose3", "thistle3", "plum2", "khaki3", "light_goldenrod2", "light_yellow3",
    "light_steel_blue1", "yellow2", "dark_olive_green1", "honeydew2", "light_cyan1", "red1",
    "deep_pink2", "deep_pink1", "magenta1", "orange_red1", "indian_red1", "hot_pink",
    "dark_orange", "salmon1", "light_coral", "pale_violet_red1", "orchid2", "orchid1", "orange1",
    "sandy_brown", "light_salmon1", "light_pink1", "pink1", "plum1", "gold1", "navajo_white1",
    "misty_rose1", "thistle1", "yellow1", "light_goldenrod1", "khaki1", "wheat1", "cornsilk1"]

/-- What can be wrong with the components of a colour, apart from there not being three. -/
inductive Fault where
  /-- One of them has no digits. -/
  | emptyComponent
  | longComponent (digits : Nat)
  deriving DecidableEq, Repr

def Fault.message : Fault → String
  | emptyComponent => "invalid literal for int() with base 10: ''"
  | longComponent digits => Value.longIntegerText (some digits)

def isNamedColour (word : String) : Bool :=
  word = "default" || colourNames.contains word ||
    greys.any fun share => word = "grey" ++ share || word = "gray" ++ share

/-- What stands between a beginning and a closing parenthesis that ends the text. -/
private def argument? (beginning : String) (cs : List Char) : Option (List Char) :=
  match after? beginning.toList cs with
  | none => none
  | some rest => if rest.getLast? = some ')' then some rest.dropLast else none

private def component (cs : List Char) : Except Fault Nat :=
  if cs.isEmpty then .error .emptyComponent
  else if Value.maxIntegerDigits < cs.length then .error (.longComponent cs.length)
  else .ok (value (cs.filterMap digitValue?))

/-- Whether a word of small letters is a colour: a name, six hexadecimal digits after `#`, a number
from 0 to 255 in `color(…)`, or three of them in `rgb(…)`. -/
def isColour (word : String) : Except Fault Bool :=
  let cs := word.toList
  match cs, argument? "color(" cs, argument? "rgb(" cs with
  | '#' :: digits, _, _ => .ok (digits.length = 6 && digits.all fun c => (hexDigit? c).isSome)
  | _, some number, _ =>
    .ok (number.length ≤ 3 && ((digits? number).map fun n => decide (n ≤ 255)) = some true)
  | _, _, some components =>
    if components.all fun c => isDigit c || c = ',' then
      match splitOn ',' components with
      | [red, green, blue] => do
        return [← component red, ← component green, ← component blue].all (· ≤ 255)
      | _ => .ok false
    else .ok false
  | _, _, _ => .ok (isNamedColour word)

/-! ### Words -/

/-- Effects, in the order in which they are written, with their short names. -/
def effectNames : List (String × List String) :=
  [("bold", ["b"]), ("dim", ["d"]), ("italic", ["i"]), ("underline", ["u"]), ("blink", []),
    ("blink2", []), ("reverse", ["r"]), ("conceal", ["c"]), ("strike", ["s"]),
    ("underline2", ["uu"]), ("frame", []), ("encircle", []), ("overline", ["o"])]

def effect? (word : String) : Option String :=
  (effectNames.find? fun entry => entry.1 = word || entry.2.contains word).map Prod.fst

def empty : Style := { effects := [], colour := none, background := none, link := none }

def set (style : Style) (effect : String) (isOn : Bool) : Style :=
  { style with effects := (effect, isOn) :: style.effects }

/-- The style that words add to one, if they are the words of a style. -/
def read? (style : Style) : List String → Except Fault (Option Style)
  | [] => .ok (some style)
  | word :: more => do
    let small := lowered word
    if small = "on" then
      match more with
      | [] => return none
      | colour :: rest =>
        if ← isColour (lowered colour) then
          read? { style with background := some (lowered colour) } rest
        else return none
    else if small = "not" then
      match more with
      | [] => return none
      | name :: rest =>
        match effect? name with
        | some effect => read? (style.set effect false) rest
        | none => return none
    else if small = "link" then
      match more with
      | [] => return none
      | address :: rest => read? { style with link := some address } rest
    else
      match effect? small with
      | some effect => read? (style.set effect true) more
      | none =>
        if ← isColour small then read? { style with colour := some small } more else return none

def text (style : Style) : String :=
  let effects := effectNames.filterMap fun entry =>
    (style.effects.lookup entry.1).map fun isOn => if isOn then entry.1 else "not " ++ entry.1
  let words := effects ++ style.colour.toList ++
    (style.background.map fun colour => "on " ++ colour).toList ++
    (style.link.map fun address => "link " ++ address).toList
  if words.isEmpty then "none" else " ".intercalate words

/-- The plain text of a style in words; what is no style is only put in small letters. -/
def plainText (s : String) : Except Fault String :=
  let trimmed := trimmed s
  if trimmed.isEmpty || trimmed = "none" then .ok "none"
  else do
    match ← read? empty ((wordsOf s.toList).map String.ofList) with
    | some style => return style.text
    | none => return lowered trimmed

end Style

end TaskAudit
