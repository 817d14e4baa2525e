import AccountRelay.Fault
import AccountRelay.Text.Blank
import AccountRelay.Text.Case
import AccountRelay.Text.Numeral
/-!
# Styles

A style is a set of attributes that are switched on or off, a colour, a background and a link. It is
defined by words: names of attributes, `not` before the name of an attribute, the name of a colour,
`on` before another one, and `link` before an address. Later words win over earlier ones.

Styles that do the same are written in the same way, whatever the words that defined them. So a style
is found again under any of its definitions.
-/

namespace AccountRelay.Console

inductive Attribute where
  | bold
  | dim
  | italic
  | underline
  | blink
  | blink2
  | reverse
  | conceal
  | strike
  | underline2
  | frame
  | encircle
  | overline
  deriving DecidableEq, Repr

namespace Attribute

def all : List Attribute :=
  [bold, dim, italic, underline, blink, blink2, reverse, conceal, strike, underline2, frame, encircle,
    overline]

def word : Attribute → Text
  | bold => "bold"
  | dim => "dim"
  | italic => "italic"
  | underline => "underline"
  | blink => "blink"
  | blink2 => "blink2"
  | reverse => "reverse"
  | conceal => "conceal"
  | strike => "strike"
  | underline2 => "underline2"
  | frame => "frame"
  | encircle => "encircle"
  | overline => "overline"

def shortWord? : Attribute → Option Text
  | bold => some "b"
  | dim => some "d"
  | italic => some "i"
  | underline => some "u"
  | reverse => some "r"
  | conceal => some "c"
  | strike => some "s"
  | underline2 => some "uu"
  | overline => some "o"
  | _ => none

def ofWord? (t : Text) : Option Attribute :=
  all.find? fun a => a.word = t ∨ a.shortWord? = some t

end Attribute

/-! ## Colours -/

def colorNames : String :=
  "black red green yellow blue magenta cyan white bright_black bright_red bright_green "
    ++ "bright_yellow bright_blue bright_magenta bright_cyan bright_white grey0 gray0 navy_blue "
    ++ "dark_blue blue3 blue1 dark_green deep_sky_blue4 dodger_blue3 dodger_blue2 green4 "
    ++ "spring_green4 turquoise4 deep_sky_blue3 dodger_blue1 green3 spring_green3 dark_cyan "
    ++ "light_sea_green deep_sky_blue2 deep_sky_blue1 spring_green2 cyan3 dark_turquoise "
    ++ "turquoise2 green1 spring_green1 medium_spring_green cyan2 cyan1 dark_red deep_pink4 "
    ++ "purple4 purple3 blue_violet orange4 grey37 gray37 medium_purple4 slate_blue3 royal_blue1 "
    ++ "chartreuse4 dark_sea_green4 pale_turquoise4 steel_blue steel_blue3 cornflower_blue "
    ++ "chartreuse3 cadet_blue sky_blue3 steel_blue1 pale_green3 sea_green3 aquamarine3 "
    ++ "medium_turquoise chartreuse2 sea_green2 sea_green1 aquamarine1 dark_slate_gray2 "
    ++ "dark_magenta dark_violet purple light_pink4 plum4 medium_purple3 slate_blue1 yellow4 "
    ++ "wheat4 grey53 gray53 light_slate_grey light_slate_gray medium_purple light_slate_blue "
    ++ "dark_olive_green3 dark_sea_green light_sky_blue3 sky_blue2 dark_sea_green3 "
    ++ "dark_slate_gray3 sky_blue1 chartreuse1 light_green pale_green1 dark_slate_gray1 red3 "
    ++ "medium_violet_red magenta3 dark_orange3 indian_red hot_pink3 medium_orchid3 medium_orchid "
    ++ "medium_purple2 dark_goldenrod light_salmon3 rosy_brown grey63 gray63 medium_purple1 gold3 "
    ++ "dark_khaki navajo_white3 grey69 gray69 light_steel_blue3 light_steel_blue yellow3 "
    ++ "dark_sea_green2 light_cyan3 light_sky_blue1 green_yellow dark_olive_green2 "
    ++ "dark_sea_green1 pale_turquoise1 deep_pink3 magenta2 hot_pink2 orchid medium_orchid1 "
    ++ "orange3 light_pink3 pink3 plum3 violet light_goldenrod3 tan misty_rose3 thistle3 plum2 "
    ++ "khaki3 light_goldenrod2 light_yellow3 grey84 gray84 light_steel_blue1 yellow2 "
    ++ "dark_olive_green1 honeydew2 light_cyan1 red1 deep_pink2 deep_pink1 magenta1 orange_red1 "
    ++ "indian_red1 hot_pink dark_orange salmon1 light_coral pale_violet_red1 orchid2 orchid1 "
    ++ "orange1 sandy_brown light_salmon1 light_pink1 pink1 plum1 gold1 navajo_white1 misty_rose1 "
    ++ "thistle1 yellow1 light_goldenrod1 khaki1 wheat1 cornsilk1 grey100 gray100 grey3 gray3 "
    ++ "grey7 gray7 grey11 gray11 grey15 gray15 grey19 gray19 grey23 gray23 grey27 gray27 grey30 "
    ++ "gray30 grey35 gray35 grey39 gray39 grey42 gray42 grey46 gray46 grey50 gray50 grey54 "
    ++ "gray54 grey58 gray58 grey62 gray62 grey66 gray66 grey70 gray70 grey74 gray74 grey78 "
    ++ "gray78 grey82 gray82 grey85 gray85 grey89 gray89 grey93 gray93 "

def colors : List Text := Text.words colorNames

namespace Color

/-- What stands between a beginning and an end. -/
def between? (start stop t : Text) : Option Text :=
  if t.startsWith start then
    let rest := t.drop start.length
    if stop.isSuffixOf rest then some (rest.take (rest.length - stop.length)) else none
  else none

/-- The number in one place of a list. The place must not be empty. -/
def share (numeral : Text) : Except Fault Nat :=
  match numeral, Text.number? numeral with
  | _ :: _, some n => .ok n
  | _, _ => .error (.notANumber numeral)

def isHexadecimal : Symbol → Bool
  | .char c => ('0' ≤ c && c ≤ '9') || ('a' ≤ c && c ≤ 'f')
  | .byte _ => false

def isSmallDigit : Symbol → Bool
  | .char c => '0' ≤ c && c ≤ '9'
  | .byte _ => false

/-- Whether a word in small letters is a colour: a name, six hexadecimal digits, a number below 256,
or three such numbers. -/
def isColor (word : Text) : Except Fault Bool := do
  if word = "default" then return true
  if colors.contains word then return true
  match between? "#" "" word with
  | some digits => return digits.length = 6 && digits.all isHexadecimal
  | none => pure ()
  match between? "color(" ")" word with
  | some digits =>
    return !digits.isEmpty && digits.length ≤ 3 && digits.all isSmallDigit
      && (Text.number? digits).any (· < 256)
  | none => pure ()
  match between? "rgb(" ")" word with
  | some list =>
    if list.isEmpty || !list.all (fun c => (Text.digitValue? c).isSome || c = .char ',') then
      return false
    let numerals := list.splitAll (.char ',')
    if numerals.length ≠ 3 then return false
    return (← numerals.mapM share).all (· < 256)
  | none => return false

end Color

/-! ## Definitions -/

structure Style where
  /-- The attributes that are switched, the latest first. -/
  switches : List (Attribute × Bool)
  color : Option Text
  background : Option Text
  link : Option Text
  deriving DecidableEq, Repr

namespace Style

def plain : Style := ⟨[], none, none, none⟩

def ofWords (s : Style) : List Text → Except Fault (Option Style)
  | [] => return some s
  | first :: rest => do
    let word := first.lower
    if word = "on" then
      match rest with
      | [] => return none
      | color :: rest =>
        let color := color.lower
        if ← Color.isColor color then ofWords { s with background := some color } rest
        else return none
    else if word = "not" then
      match rest with
      | [] => return none
      | name :: rest =>
        match Attribute.ofWord? name with
        | some a => ofWords { s with switches := (a, false) :: s.switches } rest
        | none => return none
    else if word = "link" then
      match rest with
      | [] => return none
      | address :: rest => ofWords { s with link := some address } rest
    else
      match Attribute.ofWord? word with
      | some a => ofWords { s with switches := (a, true) :: s.switches } rest
      | none =>
        if ← Color.isColor word then ofWords { s with color := some word } rest else return none

def ofText (t : Text) : Except Fault (Option Style) :=
  if t = [] ∨ Text.trim t = "none" then .ok (some plain) else ofWords plain (Text.words t)

def switchWords (s : Style) : List Text :=
  Attribute.all.filterMap fun a =>
    (s.switches.lookup a).map fun on => if on then a.word else Text.ofString "not " ++ a.word

def toText (s : Style) : Text :=
  let words := s.switchWords ++ s.color.toList
    ++ (s.background.toList.map fun color => Text.ofString "on " ++ color)
    ++ (s.link.toList.map fun address => Text.ofString "link " ++ address)
  match words with
  | [] => "none"
  | words => Text.join " " words

/-- The name under which a style is found: the one way in which it is written or, where the text
defines no style, the text itself in small letters. -/
def nameOf (t : Text) : Except Fault Text := do
  match ← ofText t with
  | some s => return s.toText
  | none => return Text.lower (Text.trim t)

end Style

end AccountRelay.Console
