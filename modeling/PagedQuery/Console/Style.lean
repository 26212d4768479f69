import PagedQuery.Text.Blank
import PagedQuery.Text.Case
import PagedQuery.Text.Digit
import PagedQuery.Text.Split

/-!
# Styles

Styles are written as words in any order: attributes, a color, a color behind the text and the
target of a link. Two texts that say the same have one normal form.
-/

namespace PagedQuery.Console

open PagedQuery.Text

/-- Attributes in the order in which they are listed, and their short names. -/
def attributeNames : List (String × String) :=
  [("bold", "b"), ("dim", "d"), ("italic", "i"), ("underline", "u"), ("blink", "blink"),
   ("blink2", "blink2"), ("reverse", "r"), ("conceal", "c"), ("strike", "s"),
   ("underline2", "uu"), ("frame", "frame"), ("encircle", "encircle"), ("overline", "o")]

/-- The attribute of a word, if it names one. -/
def attribute? (word : String) : Option String :=
  (attributeNames.find? fun (name, short) => name == word || short == word).map (·.1)

/-- Names of colors. -/
def colorNames : List String := split ' ' (
  "black red green yellow blue magenta cyan white bright_black bright_red bright_green " ++
    "bright_yellow bright_blue bright_magenta bright_cyan bright_white grey0 gray0 navy_blue " ++
    "dark_blue blue3 blue1 dark_green deep_sky_blue4 dodger_blue3 dodger_blue2 green4 " ++
    "spring_green4 turquoise4 deep_sky_blue3 dodger_blue1 green3 spring_green3 dark_cyan " ++
    "light_sea_green deep_sky_blue2 deep_sky_blue1 spring_green2 cyan3 dark_turquoise " ++
    "turquoise2 green1 spring_green1 medium_spring_green cyan2 cyan1 dark_red deep_pink4 " ++
    "purple4 purple3 blue_violet orange4 grey37 gray37 medium_purple4 slate_blue3 royal_blue1 " ++
    "chartreuse4 dark_sea_green4 pale_turquoise4 steel_blue steel_blue3 cornflower_blue " ++
    "chartreuse3 cadet_blue sky_blue3 steel_blue1 pale_green3 sea_green3 aquamarine3 " ++
    "medium_turquoise chartreuse2 sea_green2 sea_green1 aquamarine1 dark_slate_gray2 " ++
    "dark_magenta dark_violet purple light_pink4 plum4 medium_purple3 slate_blue1 yellow4 " ++
    "wheat4 grey53 gray53 light_slate_grey light_slate_gray medium_purple light_slate_blue " ++
    "dark_olive_green3 dark_sea_green light_sky_blue3 sky_blue2 dark_sea_green3 " ++
    "dark_slate_gray3 sky_blue1 chartreuse1 light_green pale_green1 dark_slate_gray1 red3 " ++
    "medium_violet_red magenta3 dark_orange3 indian_red hot_pink3 medium_orchid3 " ++
    "medium_orchid medium_purple2 dark_goldenrod light_salmon3 rosy_brown grey63 gray63 " ++
    "medium_purple1 gold3 dark_khaki navajo_white3 grey69 gray69 light_steel_blue3 " ++
    "light_steel_blue yellow3 dark_sea_green2 light_cyan3 light_sky_blue1 green_yellow " ++
    "dark_olive_green2 dark_sea_green1 pale_turquoise1 deep_pink3 magenta2 hot_pink2 orchid " ++
    "medium_orchid1 orange3 light_pink3 pink3 plum3 violet light_goldenrod3 tan misty_rose3 " ++
    "thistle3 plum2 khaki3 light_goldenrod2 light_yellow3 grey84 gray84 light_steel_blue1 " ++
    "yellow2 dark_olive_green1 honeydew2 light_cyan1 red1 deep_pink2 deep_pink1 magenta1 " ++
    "orange_red1 indian_red1 hot_pink dark_orange salmon1 light_coral pale_violet_red1 " ++
    "orchid2 orchid1 orange1 sandy_brown light_salmon1 light_pink1 pink1 plum1 gold1 " ++
    "navajo_white1 misty_rose1 thistle1 yellow1 light_goldenrod1 khaki1 wheat1 cornsilk1 " ++
    "grey100 gray100 grey3 gray3 grey7 gray7 grey11 gray11 grey15 gray15 grey19 gray19 grey23 " ++
    "gray23 grey27 gray27 grey30 gray30 grey35 gray35 grey39 gray39 grey42 gray42 grey46 " ++
    "gray46 grey50 gray50 grey54 gray54 grey58 gray58 grey62 gray62 grey66 gray66 grey70 " ++
    "gray70 grey74 gray74 grey78 gray78 grey82 gray82 grey85 gray85 grey89 gray89 grey93 " ++
    "gray93")

/-- How a word relates to colors. -/
inductive ColorWord
  | color
  /-- It is made of three parts, one of which is missing. -/
  | incomplete
  | other
  deriving Repr, DecidableEq

/-- Whether digits are a number that colors are made of. -/
def isColorNumber (ds : List Char) : Bool :=
  !ds.isEmpty && (ds.mapM digitValue?).any fun ns => ofDigits ns ≤ 255

/-- What stands in the parentheses after a name. -/
def argument? (name : String) (cs : List Char) : Option (List Char) := do
  let rest ← afterPrefix? (name.toList ++ ['(']) cs
  if rest.getLast? = some ')' then some rest.dropLast else none

/-- Whether a word in lower case is a color: a name, a number sign and six digits, a number, or
three numbers. -/
def colorWord (word : String) : ColorWord :=
  let cs := word.toList
  let isColor :=
    word == "default" || colorNames.contains word || isHex cs ||
      ((argument? "color" cs).any fun ds =>
        ds.length ≤ 3 && ds.all (·.isDigit) && isColorNumber ds)
  if isColor then .color
  else
    match (argument? "rgb" cs).map (splitChars ',') with
    | some [r, g, b] =>
      let parts := [r, g, b]
      if !(parts.flatten.all fun c => (digitValue? c).isSome) then .other
      else if parts.any (·.isEmpty) then .incomplete
      else if parts.all isColorNumber then .color
      else .other
    | _ => .other
where
  isHex : List Char → Bool
    | '#' :: ds => ds.length == 6 && ds.all fun c => c.isDigit || ('a' ≤ c && c ≤ 'f')
    | _ => false

/-- What the words of a style say. -/
structure Style where
  /-- The attributes that are on or off. -/
  attributes : List (String × Bool) := []
  color : Option String := none
  background : Option String := none
  link : Option String := none

/-- Why words say no style. -/
inductive StyleError
  | unknown
  | incompleteColor
  deriving Repr, DecidableEq

def Style.setAttribute (s : Style) (name : String) (on : Bool) : Style :=
  { s with attributes := (name, on) :: s.attributes }

/-- A word as a color. -/
def asColor (word : String) : Except StyleError String :=
  let name := lower word
  match colorWord name with
  | .color => .ok name
  | .incomplete => .error .incompleteColor
  | .other => .error .unknown

/-- The style that words add to a style. -/
def Style.addWords (s : Style) : List String → Except StyleError Style
  | [] => .ok s
  | word :: words =>
    match lower word, words with
    | "on", c :: words => do addWords { s with background := some (← asColor c) } words
    | "not", a :: words =>
      match attribute? a with
      | some name => addWords (s.setAttribute name false) words
      | none => .error .unknown
    | "link", target :: words => addWords { s with link := some target } words
    | "on", [] | "not", [] | "link", [] => .error .unknown
    | word, words =>
      match attribute? word with
      | some name => addWords (s.setAttribute name true) words
      | none => do addWords { s with color := some (← asColor word) } words

/-- The normal form of a style. -/
def Style.text (s : Style) : String :=
  let attributes := attributeNames.filterMap fun (name, _) =>
    (s.attributes.find? (·.1 == name)).map fun (_, on) => if on then name else "not " ++ name
  let behind := (s.background.map fun c => ["on", c]).getD []
  let link := (s.link.map fun l => ["link", l]).getD []
  let words := attributes ++ s.color.toList ++ behind ++ link
  if words.isEmpty then "none" else String.intercalate " " words

/-- The words of a text. -/
def styleWords (cs : List Char) : List String :=
  ((splitChars ' ' (cs.map fun c => if isBlank c then ' ' else c)).filter (!·.isEmpty)).map
    String.ofList

/-- The name of a style: its normal form, or the text in lower case if its words say no style. -/
def styleName (cs : List Char) : Except StyleError String :=
  let words := styleWords cs
  if words = ["none"] then .ok "none"
  else
    match Style.addWords {} words with
    | .ok s => .ok s.text
    | .error .unknown => .ok (lower (String.ofList (trimChars cs)))
    | .error e => .error e

end PagedQuery.Console
