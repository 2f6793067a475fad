import Tabletop.Number.Decimal
import Tabletop.Text.Blank
import Tabletop.Text.Digit
import Tabletop.Text.LetterCase

/-!
# Styles

A style says how a text looks: attributes, a colour, a colour behind the text and a link. The same
style can be written in several ways, with short words for attributes, in any order and in any
letter case; its name is the same for all of them. Words that make no style are a name as they are.
-/
namespace Tabletop

/-- How a text looks. -/
structure Style where
  /-- Attributes that are switched on or off, the latest first. -/
  attributes : List (String × Bool)
  color : Option String
  background : Option String
  link : Option String
  deriving DecidableEq, Repr

namespace Style

/-- Says nothing. -/
def blank : Style := ⟨[], none, none, none⟩

/-! ### Attributes -/

/-- The attributes in the order in which names list them, with their short words. -/
def attributeWords : List (String × String) :=
  [("bold", "b"), ("dim", "d"), ("italic", "i"), ("underline", "u"), ("blink", "blink"),
    ("blink2", "blink2"), ("reverse", "r"), ("conceal", "c"), ("strike", "s"), ("underline2", "uu"),
    ("frame", "frame"), ("encircle", "encircle"), ("overline", "o")]

/-- The attribute of a word. -/
def attribute? (word : String) : Option String :=
  (attributeWords.find? fun (long, short) => word == long || word == short).map Prod.fst

/-! ### Colours -/

/-- The colours that have names. -/
def colorNames : List (List Char) := Text.words "
  black red green yellow blue magenta cyan white bright_black bright_red bright_green
  bright_yellow bright_blue bright_magenta bright_cyan bright_white grey0 gray0 navy_blue
  dark_blue blue3 blue1 dark_green deep_sky_blue4 dodger_blue3 dodger_blue2 green4 spring_green4
  turquoise4 deep_sky_blue3 dodger_blue1 green3 spring_green3 dark_cyan light_sea_green
  deep_sky_blue2 deep_sky_blue1 spring_green2 cyan3 dark_turquoise turquoise2 green1
  spring_green1 medium_spring_green cyan2 cyan1 dark_red deep_pink4 purple4 purple3 blue_violet
  orange4 grey37 gray37 medium_purple4 slate_blue3 royal_blue1 chartreuse4 dark_sea_green4
  pale_turquoise4 steel_blue steel_blue3 cornflower_blue chartreuse3 cadet_blue sky_blue3
  steel_blue1 pale_green3 sea_green3 aquamarine3 medium_turquoise chartreuse2 sea_green2
  sea_green1 aquamarine1 dark_slate_gray2 dark_magenta dark_violet purple light_pink4 plum4
  medium_purple3 slate_blue1 yellow4 wheat4 grey53 gray53 light_slate_grey light_slate_gray
  medium_purple light_slate_blue dark_olive_green3 dark_sea_green light_sky_blue3 sky_blue2
  dark_sea_green3 dark_slate_gray3 sky_blue1 chartreuse1 light_green pale_green1 dark_slate_gray1
  red3 medium_violet_red magenta3 dark_orange3 indian_red hot_pink3 medium_orchid3 medium_orchid
  medium_purple2 dark_goldenrod light_salmon3 rosy_brown grey63 gray63 medium_purple1 gold3
  dark_khaki navajo_white3 grey69 gray69 light_steel_blue3 light_steel_blue yellow3
  dark_sea_green2 light_cyan3 light_sky_blue1 green_yellow dark_olive_green2 dark_sea_green1
  pale_turquoise1 deep_pink3 magenta2 hot_pink2 orchid medium_orchid1 orange3 light_pink3 pink3
  plum3 violet light_goldenrod3 tan misty_rose3 thistle3 plum2 khaki3 light_goldenrod2
  light_yellow3 grey84 gray84 light_steel_blue1 yellow2 dark_olive_green1 honeydew2 light_cyan1
  red1 deep_pink2 deep_pink1 magenta1 orange_red1 indian_red1 hot_pink dark_orange salmon1
  light_coral pale_violet_red1 orchid2 orchid1 orange1 sandy_brown light_salmon1 light_pink1
  pink1 plum1 gold1 navajo_white1 misty_rose1 thistle1 yellow1 light_goldenrod1 khaki1 wheat1
  cornsilk1 grey100 gray100 grey3 gray3 grey7 gray7 grey11 gray11 grey15 gray15 grey19 gray19
  grey23 gray23 grey27 gray27 grey30 gray30 grey35 gray35 grey39 gray39 grey42 gray42 grey46
  gray46 grey50 gray50 grey54 gray54 grey58 gray58 grey62 gray62 grey66 gray66 grey70 gray70
  grey74 gray74 grey78 gray78 grey82 gray82 grey85 gray85 grey89 gray89 grey93 gray93 default
".toList

/-- Why words make no style. -/
inductive Refusal where
  /-- One of them is neither an attribute nor a colour. -/
  | unknown
  /-- A part of a colour in parts has no digits. -/
  | emptyPart
  deriving DecidableEq, Repr

/-- The most that a part of a colour or the number of a colour can be. -/
def colorLimit : Nat := 255

/-- The colour is one of those with a name. -/
def isNamed (cs : List Char) : Bool := colorNames.contains cs

/-- The colour is written in six hexadecimal digits. -/
def isHexadecimal (cs : List Char) : Bool :=
  match cs with
  | '#' :: digits =>
      digits.length == 6 && digits.all fun c => Decimal.isDigit c || ('a' ≤ c && c ≤ 'f')
  | _ => false

/-- What stands between parentheses after a word, up to the end. -/
def inParentheses? (word cs : List Char) : Option (List Char) :=
  if word.isPrefixOf cs && cs.getLast? == some ')' then some (cs.drop word.length).dropLast
  else none

/-- The colour is one of those with a number. -/
def isNumbered (cs : List Char) : Bool :=
  match inParentheses? "color(".toList cs with
  | some digits =>
      !digits.isEmpty && digits.length ≤ 3 && digits.all Decimal.isDigit &&
        Decimal.ofDigits digits ≤ colorLimit
  | none => false

/-- Parts with commas between them. -/
def splitCommas : List Char → List (List Char)
  | [] => [[]]
  | c :: rest =>
      match splitCommas rest with
      | [] => [[c]]
      | part :: parts => if c == ',' then [] :: part :: parts else (c :: part) :: parts

/-- The value of a part, in the digits of any script. -/
def part? (cs : List Char) : Option Nat :=
  if cs.isEmpty then none
  else (cs.mapM Text.digit?).map fun ds => ds.foldl (fun n d => 10 * n + d) 0

/-- The colour is written in three parts; it is no colour at all if a part has no digits. -/
def readParts (cs : List Char) : Except Refusal Unit :=
  match inParentheses? "rgb(".toList cs with
  | none => .error .unknown
  | some inside =>
      let parts := splitCommas inside
      let isPart (c : Char) := (Text.digit? c).isSome
      if parts.length != 3 || !parts.all fun part => part.all isPart then .error .unknown
      else
        match parts.mapM part? with
        | none => .error .emptyPart
        | some values => if values.all (· ≤ colorLimit) then .ok () else .error .unknown

/-- A colour in small letters. -/
def readColor (word : String) : Except Refusal String :=
  let found := Text.lower word
  let cs := found.toList
  if isNamed cs || isHexadecimal cs || isNumbered cs then .ok found
  else (readParts cs).map fun _ => found

/-! ### Reading and naming -/

/-- Read more words of a style. -/
def readWords : List String → Style → Except Refusal Style
  | [], s => .ok s
  | word :: rest, s =>
      let found := Text.lower word
      if found = "on" then
        match rest with
        | [] => .error .unknown
        | color :: rest => do
            let background ← readColor color
            readWords rest { s with background := some background }
      else if found = "not" then
        match rest with
        | [] => .error .unknown
        | word :: rest =>
            match attribute? word with
            | some trait => readWords rest { s with attributes := (trait, false) :: s.attributes }
            | none => .error .unknown
      else if found = "link" then
        match rest with
        | [] => .error .unknown
        | target :: rest => readWords rest { s with link := some target }
      else
        match attribute? found with
        | some trait => readWords rest { s with attributes := (trait, true) :: s.attributes }
        | none => do
            let color ← readColor found
            readWords rest { s with color := some color }

/-- The words of an attribute that is switched on or off. -/
def attributeName (s : Style) (trait : String) : Option String :=
  (s.attributes.lookup trait).map fun on => if on then trait else "not " ++ trait

/-- The name of a style: its attributes, its colours and its link, in this order. -/
def name (s : Style) : String :=
  let words :=
    (attributeWords.filterMap fun (trait, _) => s.attributeName trait) ++ s.color.toList ++
      (s.background.map ("on " ++ ·)).toList ++ (s.link.map ("link " ++ ·)).toList
  if words.isEmpty then "none" else String.intercalate " " words

/-- The name of a style that is written in words. Words that make no style are their own name. -/
def nameOf (written : String) : Except Refusal String :=
  match readWords ((Text.words written.toList).map String.ofList) blank with
  | .ok s => .ok s.name
  | .error .unknown => .ok (Text.lower (Text.strip written))
  | .error .emptyPart => .error .emptyPart

end Style

end Tabletop
