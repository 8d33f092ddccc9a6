import Transcript.Number.Decimal
import Transcript.Text.Case
import Transcript.Text.Digit
import Transcript.Text.Lines

/-!
# Styles of console text

A style is written in words: attributes, each perhaps with a `not` in front, a colour, a colour
behind the word `on` for the background, and an address behind the word `link`. Styles that come to
the same have the same normal form, whatever the order of their words.

## Main definitions

- `Style`: what a style asks for
- `Style.read?`: the style that words describe
- `normalStyle`: the normal form of written styles
-/

namespace Transcript.Cli

/-- What a style asks for. -/
structure Style where
  /-- Attributes that are switched on or off. -/
  attributes : List (String × Bool) := []
  /-- The colour. -/
  color : Option String := none
  /-- The colour of the background. -/
  background : Option String := none
  /-- The address that the text leads to. -/
  link : Option String := none

namespace Style

/-- The attributes, in the order of the normal form, each with its short names. -/
def attributeNames : List (String × List String) := [
  ("bold", ["b"]), ("dim", ["d"]), ("italic", ["i"]), ("underline", ["u"]), ("blink", []),
  ("blink2", []), ("reverse", ["r"]), ("conceal", ["c"]), ("strike", ["s"]), ("underline2", ["uu"]),
  ("frame", []), ("encircle", []), ("overline", ["o"])]

/-- The attribute of this name. -/
def attribute? (word : String) : Option String :=
  (attributeNames.find? fun (name, short) => name == word || short.contains word).map Prod.fst

/-- The names of colours. -/
def colorNames : List String := [
  "black", "red", "green", "yellow", "blue", "magenta", "cyan", "white", "bright_black",
  "bright_red", "bright_green", "bright_yellow", "bright_blue", "bright_magenta", "bright_cyan",
  "bright_white", "grey0", "gray0", "navy_blue", "dark_blue", "blue3", "blue1", "dark_green",
  "deep_sky_blue4", "dodger_blue3", "dodger_blue2", "green4", "spring_green4", "turquoise4",
  "deep_sky_blue3", "dodger_blue1", "green3", "spring_green3", "dark_cyan", "light_sea_green",
  "deep_sky_blue2", "deep_sky_blue1", "spring_green2", "cyan3", "dark_turquoise", "turquoise2",
  "green1", "spring_green1", "medium_spring_green", "cyan2", "cyan1", "dark_red", "deep_pink4",
  "purple4", "purple3", "blue_violet", "orange4", "grey37", "gray37", "medium_purple4",
  "slate_blue3", "royal_blue1", "chartreuse4", "dark_sea_green4", "pale_turquoise4", "steel_blue",
  "steel_blue3", "cornflower_blue", "chartreuse3", "cadet_blue", "sky_blue3", "steel_blue1",
  "pale_green3", "sea_green3", "aquamarine3", "medium_turquoise", "chartreuse2", "sea_green2",
  "sea_green1", "aquamarine1", "dark_slate_gray2", "dark_magenta", "dark_violet", "purple",
  "light_pink4", "plum4", "medium_purple3", "slate_blue1", "yellow4", "wheat4", "grey53",
  "gray53", "light_slate_grey", "light_slate_gray", "medium_purple", "light_slate_blue",
  "dark_olive_green3", "dark_sea_green", "light_sky_blue3", "sky_blue2", "dark_sea_green3",
  "dark_slate_gray3", "sky_blue1", "chartreuse1", "light_green", "pale_green1",
  "dark_slate_gray1", "red3", "medium_violet_red", "magenta3", "dark_orange3", "indian_red",
  "hot_pink3", "medium_orchid3", "medium_orchid", "medium_purple2", "dark_goldenrod",
  "light_salmon3", "rosy_brown", "grey63", "gray63", "medium_purple1", "gold3", "dark_khaki",
  "navajo_white3", "grey69", "gray69", "light_steel_blue3", "light_steel_blue", "yellow3",
  "dark_sea_green2", "light_cyan3", "light_sky_blue1", "green_yellow", "dark_olive_green2",
  "dark_sea_green1", "pale_turquoise1", "deep_pink3", "magenta2", "hot_pink2", "orchid",
  "medium_orchid1", "orange3", "light_pink3", "pink3", "plum3", "violet", "light_goldenrod3",
  "tan", "misty_rose3", "thistle3", "plum2", "khaki3", "light_goldenrod2", "light_yellow3",
  "grey84", "gray84", "light_steel_blue1", "yellow2", "dark_olive_green1", "honeydew2",
  "light_cyan1", "red1", "deep_pink2", "deep_pink1", "magenta1", "orange_red1", "indian_red1",
  "hot_pink", "dark_orange", "salmon1", "light_coral", "pale_violet_red1", "orchid2", "orchid1",
  "orange1", "sandy_brown", "light_salmon1", "light_pink1", "pink1", "plum1", "gold1",
  "navajo_white1", "misty_rose1", "thistle1", "yellow1", "light_goldenrod1", "khaki1", "wheat1",
  "cornsilk1", "grey100", "gray100", "grey3", "gray3", "grey7", "gray7", "grey11", "gray11",
  "grey15", "gray15", "grey19", "gray19", "grey23", "gray23", "grey27", "gray27", "grey30",
  "gray30", "grey35", "gray35", "grey39", "gray39", "grey42", "gray42", "grey46", "gray46",
  "grey50", "gray50", "grey54", "gray54", "grey58", "gray58", "grey62", "gray62", "grey66",
  "gray66", "grey70", "gray70", "grey74", "gray74", "grey78", "gray78", "grey82", "gray82",
  "grey85", "gray85", "grey89", "gray89", "grey93", "gray93"]

/-- The numbers in a list between parentheses behind a word, if they are numbers below 256. -/
def levels? (word written : String) : Option (List Nat) :=
  let chars := written.toList
  let start := word.toList ++ ['(']
  if chars.take start.length ≠ start || chars.getLast? ≠ some ')' then none
  else
    (Chars.splitAt ',' (chars.drop start.length).dropLast).mapM fun digits =>
      if digits.isEmpty || !digits.all Char.isDigit then none
      else
        let level := Chars.ofDigits (digits.map fun c => c.toNat - '0'.toNat)
        if level < 256 then some level else none

/-- Whether a word in lower case is a colour: a name, six hexadecimal digits, a number or three
levels. -/
def isColor (word : String) : Bool :=
  let isHex (c : Char) : Bool := c.isDigit || ('a' ≤ c && c ≤ 'f')
  let hex := word.toList.drop 1
  word == "default" || colorNames.contains word ||
    (word.toList.head? == some '#' && hex.length == 6 && hex.all isHex) ||
    (levels? "color" word).any (fun levels => levels.length = 1) && word.length ≤ 10 ||
    (levels? "rgb" word).any fun levels => levels.length = 3

/-- The colour that a word names. -/
def color? (word : String) : Option String :=
  let word := Text.lower word
  if isColor word then some word else none

/-- Switches an attribute on or off. -/
def switch (name : String) (value : Bool) (s : Style) : Style :=
  { s with attributes := (name, value) :: s.attributes.filter fun e => e.1 != name }

/-- Reads the words of a style, on top of what has been read. -/
def readWords (s : Style) : List String → Option Style
  | [] => some s
  | word :: rest =>
    match Text.lower word, rest with
    | "on", background :: rest =>
      (color? background).bind fun c => readWords { s with background := some c } rest
    | "not", name :: rest => (attribute? name).bind fun a => readWords (s.switch a false) rest
    | "link", address :: rest => readWords { s with link := some address } rest
    | lowered, rest =>
      match attribute? lowered with
      | some name => readWords (s.switch name true) rest
      | none => (color? lowered).bind fun c => readWords { s with color := some c } rest

/-- The style that is written, if it is one. -/
def read? (written : String) : Option Style :=
  if Text.trim written == "none" then some {} else readWords {} (Text.words written)

/-- The words of a style in their normal order. -/
def words (s : Style) : List String :=
  let attributes := attributeNames.filterMap fun (name, _) =>
    (s.attributes.lookup name).map fun value => if value then name else "not " ++ name
  attributes ++ s.color.toList ++ s.background.toList.flatMap (fun c => ["on", c]) ++
    s.link.toList.flatMap fun address => ["link", address]

end Style

/-- The normal form of a written style; what is no style is left in lower case. -/
def normalStyle (written : String) : String :=
  match Style.read? written with
  | none => Text.lower (Text.trim written)
  | some style => if style.words.isEmpty then "none" else Text.join " " style.words

end Transcript.Cli
