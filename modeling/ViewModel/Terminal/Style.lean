import ViewModel.Number.Token
import ViewModel.Text.Blank
import ViewModel.Text.Lower

/-!
# Styles

A style is named by its attributes, its colours and its link, in any order and with short words for the
attributes. Two names of one style have the same canonical name. A name with a part of a colour missing is
no name at all.
-/

namespace ViewModel.Terminal

set_option maxRecDepth 10000 in
def colourNames : List String :=
  [
   "black", "red", "green", "yellow", "blue", "magenta", "cyan", "white", "bright_black", "bright_red",
   "bright_green", "bright_yellow", "bright_blue", "bright_magenta", "bright_cyan", "bright_white",
   "grey0", "gray0", "navy_blue", "dark_blue", "blue3", "blue1", "dark_green", "deep_sky_blue4",
   "dodger_blue3", "dodger_blue2", "green4", "spring_green4", "turquoise4", "deep_sky_blue3",
   "dodger_blue1", "green3", "spring_green3", "dark_cyan", "light_sea_green", "deep_sky_blue2",
   "deep_sky_blue1", "spring_green2", "cyan3", "dark_turquoise", "turquoise2", "green1",
   "spring_green1", "medium_spring_green", "cyan2", "cyan1", "dark_red", "deep_pink4", "purple4",
   "purple3", "blue_violet", "orange4", "grey37", "gray37", "medium_purple4", "slate_blue3",
   "royal_blue1", "chartreuse4", "dark_sea_green4", "pale_turquoise4", "steel_blue", "steel_blue3",
   "cornflower_blue", "chartreuse3", "cadet_blue", "sky_blue3", "steel_blue1", "pale_green3",
   "sea_green3", "aquamarine3", "medium_turquoise", "chartreuse2", "sea_green2", "sea_green1",
   "aquamarine1", "dark_slate_gray2", "dark_magenta", "dark_violet", "purple", "light_pink4", "plum4",
   "medium_purple3", "slate_blue1", "yellow4", "wheat4", "grey53", "gray53", "light_slate_grey",
   "light_slate_gray", "medium_purple", "light_slate_blue", "dark_olive_green3", "dark_sea_green",
   "light_sky_blue3", "sky_blue2", "dark_sea_green3", "dark_slate_gray3", "sky_blue1", "chartreuse1",
   "light_green", "pale_green1", "dark_slate_gray1", "red3", "medium_violet_red", "magenta3",
   "dark_orange3", "indian_red", "hot_pink3", "medium_orchid3", "medium_orchid", "medium_purple2",
   "dark_goldenrod", "light_salmon3", "rosy_brown", "grey63", "gray63", "medium_purple1", "gold3",
   "dark_khaki", "navajo_white3", "grey69", "gray69", "light_steel_blue3", "light_steel_blue",
   "yellow3", "dark_sea_green2", "light_cyan3", "light_sky_blue1", "green_yellow", "dark_olive_green2",
   "dark_sea_green1", "pale_turquoise1", "deep_pink3", "magenta2", "hot_pink2", "orchid",
   "medium_orchid1", "orange3", "light_pink3", "pink3", "plum3", "violet", "light_goldenrod3", "tan",
   "misty_rose3", "thistle3", "plum2", "khaki3", "light_goldenrod2", "light_yellow3", "grey84",
   "gray84", "light_steel_blue1", "yellow2", "dark_olive_green1", "honeydew2", "light_cyan1", "red1",
   "deep_pink2", "deep_pink1", "magenta1", "orange_red1", "indian_red1", "hot_pink", "dark_orange",
   "salmon1", "light_coral", "pale_violet_red1", "orchid2", "orchid1", "orange1", "sandy_brown",
   "light_salmon1", "light_pink1", "pink1", "plum1", "gold1", "navajo_white1", "misty_rose1",
   "thistle1", "yellow1", "light_goldenrod1", "khaki1", "wheat1", "cornsilk1", "grey100", "gray100",
   "grey3", "gray3", "grey7", "gray7", "grey11", "gray11", "grey15", "gray15", "grey19", "gray19",
   "grey23", "gray23", "grey27", "gray27", "grey30", "gray30", "grey35", "gray35", "grey39", "gray39",
   "grey42", "gray42", "grey46", "gray46", "grey50", "gray50", "grey54", "gray54", "grey58", "gray58",
   "grey62", "gray62", "grey66", "gray66", "grey70", "gray70", "grey74", "gray74", "grey78", "gray78",
   "grey82", "gray82", "grey85", "gray85", "grey89", "gray89", "grey93", "gray93"]

/-- The attributes in the order in which a name lists them. -/
def attributeNames : List String :=
  ["bold", "dim", "italic", "underline", "blink", "blink2", "reverse", "conceal", "strike", "underline2",
   "frame", "encircle", "overline"]

def attributeAliases : List (String × String) :=
  [("d", "dim"), ("b", "bold"), ("i", "italic"), ("u", "underline"), ("r", "reverse"), ("c", "conceal"),
   ("s", "strike"), ("uu", "underline2"), ("o", "overline")]

def attribute? (word : String) : Option String :=
  if attributeNames.contains word then some word else attributeAliases.lookup word

def wordsOf : List Char → List String
  | [] => []
  | c :: rest =>
    if Text.isBlank c then wordsOf rest
    else
      match rest with
      | [] => [String.singleton c]
      | next :: _ =>
        match Text.isBlank next, wordsOf rest with
        | false, first :: others => String.ofList (c :: first.toList) :: others
        | _, others => String.singleton c :: others

/-- The value of an argument between a word and its closing bracket. -/
def argument? (word : String) (text : String) : Option (List Char) :=
  let opening := (word ++ "(").toList
  let chars := text.toList
  if opening.isPrefixOf chars && chars.getLast? == some ')' then
    some (chars.drop opening.length).dropLast
  else none

/-- A number of one of the 256 intensities or colours. -/
def isByte (digits : List Char) : Bool :=
  !digits.isEmpty && digits.all Char.isDigit &&
    digits.foldl (fun n c => n * 10 + (c.toNat - 48)) 0 ≤ 255

/-- A part of a colour that is no number. -/
inductive ColourFault
  | unreadable
  deriving DecidableEq, Repr

/-- Whether three parts, of digits of any script, are those of a colour. -/
def isMixed (parts : List (List Char)) : Except ColourFault Bool := do
  if parts.length != 3 then return false
  let values ← parts.mapM fun part =>
    match Number.integer? part with
    | some value => .ok value
    | none => .error .unreadable
  return values.all (· ≤ 255)

def stretches (chars : List Char) : List (List Char) := ((String.ofList chars).splitOn ",").map String.toList

def isColour (word : String) : Except ColourFault Bool :=
  let isHex (c : Char) : Bool := c.isDigit || ('a' ≤ c && c ≤ 'f')
  let known := word == "default" || colourNames.contains word ||
    (match word.toList with
      | '#' :: digits => digits.length == 6 && digits.all isHex
      | _ => false) ||
    (match argument? "color" word with
      | some digits => digits.length ≤ 3 && isByte digits
      | none => false)
  match argument? "rgb" word with
  | some parts =>
    if !parts.isEmpty && parts.all (fun c => c == ',' || (Text.digitValue? c).isSome) then
      isMixed (stretches parts)
    else .ok known
  | none => .ok known

structure Style where
  attributes : List (String × Bool) := []
  colour : Option String := none
  background : Option String := none
  link : Option String := none

def Style.withAttribute (style : Style) (name : String) (value : Bool) : Style :=
  { style with attributes := (name, value) :: style.attributes }

def Style.ofWords? (style : Style) : List String → Except ColourFault (Option Style)
  | [] => .ok (some style)
  | word :: rest =>
    match Text.lower word, rest with
    | "on", colour :: rest => do
      if ← isColour (Text.lower colour) then
        Style.ofWords? { style with background := some (Text.lower colour) } rest
      else return none
    | "on", [] => .ok none
    | "not", name :: rest =>
      match attribute? name with
      | some name => Style.ofWords? (style.withAttribute name false) rest
      | none => .ok none
    | "not", [] => .ok none
    | "link", target :: rest => Style.ofWords? { style with link := some target } rest
    | "link", [] => .ok none
    | word, rest =>
      match attribute? word with
      | some name => Style.ofWords? (style.withAttribute name true) rest
      | none => do
        if ← isColour word then Style.ofWords? { style with colour := some word } rest else return none

def Style.name (style : Style) : String :=
  let attributes := attributeNames.filterMap fun name =>
    (style.attributes.lookup name).map fun value => if value then name else "not " ++ name
  let words := attributes ++ style.colour.toList ++
    (style.background.map ("on " ++ ·)).toList ++ (style.link.map ("link " ++ ·)).toList
  if words.isEmpty then "none" else " ".intercalate words

/-- The name in its canonical form; one that names no style is taken as it is, in lower case. -/
def canonical (name : String) : Except ColourFault String := do
  let trimmed := Text.trim name
  if trimmed == "none" then return trimmed
  match ← Style.ofWords? {} (wordsOf name.toList) with
  | some style => return style.name
  | none => return Text.lower trimmed

end ViewModel.Terminal
