import GoFlow.Text.Blank
import GoFlow.Text.Lower

/-!
# Styles of text

A style is written in words: attributes such as `bold`, `not bold` without one, a colour, `on` and
the colour behind the text, `link` and an address. Styles with the same effect have one name.

- `TextStyle.read`: the style that words describe.
- `TextStyle.name`: its name.
- `styleName`: the name of a style as it is written, of one that is not known too.
-/

namespace GoFlow

/-- Names of the colours of a terminal. -/
def colourRows : List String :=
  ["aquamarine1 aquamarine3 black blue blue1 blue3 blue_violet bright_black bright_blue",
   "bright_cyan bright_green bright_magenta bright_red bright_white bright_yellow cadet_blue",
   "chartreuse1 chartreuse2 chartreuse3 chartreuse4 cornflower_blue cornsilk1 cyan cyan1 cyan2",
   "cyan3 dark_blue dark_cyan dark_goldenrod dark_green dark_khaki dark_magenta",
   "dark_olive_green1 dark_olive_green2 dark_olive_green3 dark_orange dark_orange3 dark_red",
   "dark_sea_green dark_sea_green1 dark_sea_green2 dark_sea_green3 dark_sea_green4",
   "dark_slate_gray1 dark_slate_gray2 dark_slate_gray3 dark_turquoise dark_violet deep_pink1",
   "deep_pink2 deep_pink3 deep_pink4 deep_sky_blue1 deep_sky_blue2 deep_sky_blue3 deep_sky_blue4",
   "dodger_blue1 dodger_blue2 dodger_blue3 gold1 gold3 gray0 gray100 gray11 gray15 gray19 gray23",
   "gray27 gray3 gray30 gray35 gray37 gray39 gray42 gray46 gray50 gray53 gray54 gray58 gray62",
   "gray63 gray66 gray69 gray7 gray70 gray74 gray78 gray82 gray84 gray85 gray89 gray93 green",
   "green1 green3 green4 green_yellow grey0 grey100 grey11 grey15 grey19 grey23 grey27 grey3",
   "grey30 grey35 grey37 grey39 grey42 grey46 grey50 grey53 grey54 grey58 grey62 grey63 grey66",
   "grey69 grey7 grey70 grey74 grey78 grey82 grey84 grey85 grey89 grey93 honeydew2 hot_pink",
   "hot_pink2 hot_pink3 indian_red indian_red1 khaki1 khaki3 light_coral light_cyan1 light_cyan3",
   "light_goldenrod1 light_goldenrod2 light_goldenrod3 light_green light_pink1 light_pink3",
   "light_pink4 light_salmon1 light_salmon3 light_sea_green light_sky_blue1 light_sky_blue3",
   "light_slate_blue light_slate_gray light_slate_grey light_steel_blue light_steel_blue1",
   "light_steel_blue3 light_yellow3 magenta magenta1 magenta2 magenta3 medium_orchid",
   "medium_orchid1 medium_orchid3 medium_purple medium_purple1 medium_purple2 medium_purple3",
   "medium_purple4 medium_spring_green medium_turquoise medium_violet_red misty_rose1",
   "misty_rose3 navajo_white1 navajo_white3 navy_blue orange1 orange3 orange4 orange_red1 orchid",
   "orchid1 orchid2 pale_green1 pale_green3 pale_turquoise1 pale_turquoise4 pale_violet_red1",
   "pink1 pink3 plum1 plum2 plum3 plum4 purple purple3 purple4 red red1 red3 rosy_brown",
   "royal_blue1 salmon1 sandy_brown sea_green1 sea_green2 sea_green3 sky_blue1 sky_blue2",
   "sky_blue3 slate_blue1 slate_blue3 spring_green1 spring_green2 spring_green3 spring_green4",
   "steel_blue steel_blue1 steel_blue3 tan thistle1 thistle3 turquoise2 turquoise4 violet wheat1",
   "wheat4 white yellow yellow1 yellow2 yellow3 yellow4"]

/-- Why words describe no style. -/
inductive StyleFault where
  /-- A word that is no attribute and no colour. -/
  | unknown
  /-- A colour with a share of red, green or blue left out. -/
  | emptyShare
deriving DecidableEq, Repr

/-! ## Colours -/

/-- The number that digits write. -/
def shareValue (digits : List Char) : Nat :=
  digits.foldl (fun n c => 10 * n + (c.toNat - '0'.toNat)) 0

/-- What is between the front and a closing bracket at the end. -/
def between? (front : String) (s : List Char) : Option (List Char) :=
  if front.toList.isPrefixOf s && s.getLast? == some ')' then
    some ((s.drop front.length).dropLast)
  else none

/-- Whether the text is a number sign and six hexadecimal digits. -/
def isHexColour (s : List Char) : Bool :=
  s.head? == some '#' && s.length == 7
    && (s.drop 1).all fun c => c.isDigit || ('a' ≤ c && c ≤ 'f')

/-- Checks shares of red, green and blue between commas. -/
def checkShares (s : List Char) : Except StyleFault Unit :=
  let shares := s.splitOn ','
  if s.isEmpty || !s.all (fun c => c.isDigit || c == ',') || shares.length != 3 then
    .error .unknown
  else if shares.any List.isEmpty then .error .emptyShare
  else if shares.any fun d => shareValue d > 255 then .error .unknown
  else .ok ()

/-- Checks that a text in lower case is a colour: a name, a number up to 255, shares of red, green
and blue up to 255, or the same in hexadecimal digits. -/
def checkColour (s : List Char) : Except StyleFault Unit :=
  if s == "default".toList || colourRows.any (fun row => (row.toList.splitOn ' ').contains s)
      || isHexColour s then .ok ()
  else
    match between? "color(" s, between? "rgb(" s with
    | some n, _ =>
      if !n.isEmpty && n.length ≤ 3 && n.all Char.isDigit && shareValue n ≤ 255 then .ok ()
      else .error .unknown
    | _, some shares => checkShares shares
    | none, none => .error .unknown

/-! ## Styles -/

/-- The attributes in the order of their names in a style. -/
def attributeNames : List String :=
  ["bold", "dim", "italic", "underline", "blink", "blink2", "reverse", "conceal", "strike",
   "underline2", "frame", "encircle", "overline"]

/-- The attribute that a word stands for. -/
def attributeNamed? : String → Option String
  | "b" => some "bold"
  | "d" => some "dim"
  | "i" => some "italic"
  | "u" => some "underline"
  | "r" => some "reverse"
  | "c" => some "conceal"
  | "s" => some "strike"
  | "uu" => some "underline2"
  | "o" => some "overline"
  | word => if attributeNames.contains word then some word else none

/-- A style of text. -/
structure TextStyle where
  /-- Whether an attribute is on or off, the latest word first. -/
  attributes : List (String × Bool) := []
  colour : Option (List Char) := none
  background : Option (List Char) := none
  link : Option (List Char) := none
deriving DecidableEq, Repr

namespace TextStyle

/-- Adds to a style what words describe. -/
def read (s : TextStyle) : List (List Char) → Except StyleFault TextStyle
  | [] => .ok s
  | [word] =>
    match attributeNamed? (String.ofList (lowerLatin word)) with
    | some a => .ok { s with attributes := (a, true) :: s.attributes }
    | none => do
      checkColour (lowerLatin word)
      return { s with colour := some (lowerLatin word) }
  | word :: next :: rest =>
    match String.ofList (lowerLatin word) with
    | "on" => do
      checkColour (lowerLatin next)
      read { s with background := some (lowerLatin next) } rest
    | "not" =>
      match attributeNamed? (String.ofList next) with
      | some a => read { s with attributes := (a, false) :: s.attributes } rest
      | none => .error .unknown
    | "link" => read { s with link := some next } rest
    | name =>
      match attributeNamed? name with
      | some a =>
        read { s with attributes := (a, true) :: s.attributes } (next :: rest)
      | none => do
        checkColour name.toList
        read { s with colour := some name.toList } (next :: rest)

/-- The words of a style in their order. -/
def words (s : TextStyle) : List String :=
  attributeNames.filterMap (fun a => (s.attributes.lookup a).map fun on =>
    if on then a else "not " ++ a)
  ++ (s.colour.map String.ofList).toList
  ++ (s.background.map fun c => "on " ++ String.ofList c).toList
  ++ (s.link.map fun l => "link " ++ String.ofList l).toList

/-- The name of a style. -/
def name (s : TextStyle) : String := if s.words.isEmpty then "none" else " ".intercalate s.words

end TextStyle

/-- The words between spaces. -/
def spacedWords (s : List Char) : List (List Char) :=
  (s.splitOnP isSpace).filter (!·.isEmpty)

/-- The name of a style as it is written. One that is not known keeps its letters, in lower
case. -/
def styleName (s : List Char) : Except StyleFault String :=
  if trimSpaces s == "none".toList then .ok "none"
  else
    match TextStyle.read {} (spacedWords s) with
    | .ok style => .ok style.name
    | .error .unknown => .ok (String.ofList (lowerLatin (trimSpaces s)))
    | .error fault => .error fault

end GoFlow
