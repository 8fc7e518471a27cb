import ProcessTriggers.Double.Numeral
import ProcessTriggers.Error
import ProcessTriggers.Text.Blank
import ProcessTriggers.Text.Lowercase
import ProcessTriggers.Text.Search

/-!
Styles of text on a terminal. A style is written as words in any order: attributes, which may be
negated, a colour, a colour to stand on, and a link. Styles that look alike have one normal form, in
which attributes come first.
-/

namespace ProcessTriggers.CommandLine

/-- The attributes in the order of the normal form, each with its short name if it has one. -/
def attributes : List (String × Option String) :=
  [("bold", some "b"), ("dim", some "d"), ("italic", some "i"), ("underline", some "u"),
    ("blink", none), ("blink2", none), ("reverse", some "r"), ("conceal", some "c"),
    ("strike", some "s"), ("underline2", some "uu"), ("frame", none), ("encircle", none),
    ("overline", some "o")]

def attribute? (word : String) : Option String :=
  (attributes.find? fun (long, short) => long = word || short = some word).map (·.1)

/-- The names of colours. -/
def colourRows : List String :=
  ["default aquamarine1 aquamarine3 black blue blue1 blue3 blue_violet bright_black bright_blue",
    "bright_cyan bright_green bright_magenta bright_red bright_white bright_yellow cadet_blue",
    "chartreuse1 chartreuse2 chartreuse3 chartreuse4 cornflower_blue cornsilk1 cyan cyan1 cyan2",
    "cyan3 dark_blue dark_cyan dark_goldenrod dark_green dark_khaki dark_magenta",
    "dark_olive_green1 dark_olive_green2 dark_olive_green3 dark_orange dark_orange3 dark_red",
    "dark_sea_green dark_sea_green1 dark_sea_green2 dark_sea_green3 dark_sea_green4",
    "dark_slate_gray1 dark_slate_gray2 dark_slate_gray3 dark_turquoise dark_violet deep_pink1",
    "deep_pink2 deep_pink3 deep_pink4 deep_sky_blue1 deep_sky_blue2 deep_sky_blue3",
    "deep_sky_blue4 dodger_blue1 dodger_blue2 dodger_blue3 gold1 gold3 green green1 green3",
    "green4 green_yellow honeydew2 hot_pink hot_pink2 hot_pink3 indian_red indian_red1 khaki1",
    "khaki3 light_coral light_cyan1 light_cyan3 light_goldenrod1 light_goldenrod2",
    "light_goldenrod3 light_green light_pink1 light_pink3 light_pink4 light_salmon1",
    "light_salmon3 light_sea_green light_sky_blue1 light_sky_blue3 light_slate_blue",
    "light_slate_gray light_slate_grey light_steel_blue light_steel_blue1 light_steel_blue3",
    "light_yellow3 magenta magenta1 magenta2 magenta3 medium_orchid medium_orchid1",
    "medium_orchid3 medium_purple medium_purple1 medium_purple2 medium_purple3 medium_purple4",
    "medium_spring_green medium_turquoise medium_violet_red misty_rose1 misty_rose3",
    "navajo_white1 navajo_white3 navy_blue orange1 orange3 orange4 orange_red1 orchid orchid1",
    "orchid2 pale_green1 pale_green3 pale_turquoise1 pale_turquoise4 pale_violet_red1 pink1",
    "pink3 plum1 plum2 plum3 plum4 purple purple3 purple4 red red1 red3 rosy_brown royal_blue1",
    "salmon1 sandy_brown sea_green1 sea_green2 sea_green3 sky_blue1 sky_blue2 sky_blue3",
    "slate_blue1 slate_blue3 spring_green1 spring_green2 spring_green3 spring_green4 steel_blue",
    "steel_blue1 steel_blue3 tan thistle1 thistle3 turquoise2 turquoise4 violet wheat1 wheat4",
    "white yellow yellow1 yellow2 yellow3 yellow4"]

/-- The shades of grey, in hundredths of white. -/
def greyShades : List Nat :=
  [0, 3, 7, 11, 15, 19, 23, 27, 30, 35, 37, 39, 42, 46, 50, 53, 54, 58, 62, 63, 66, 69, 70, 74, 78,
    82, 84, 85, 89, 93, 100]

def isColourName (word : String) : Bool :=
  colourRows.any (fun row => (Text.words (· == ' ') row.toList).contains word.toList) ||
    greyShades.any fun n => word = s!"gray{n}" || word = s!"grey{n}"

/-- What stands between the brackets of a function's only call. -/
def bracketed? (function : String) (cs : List Char) : Option (List Char) :=
  if (function.toList ++ ['(']).isPrefixOf cs && cs.getLast? = some ')' then
    some ((cs.drop (function.length + 1)).dropLast)
  else none

def isSmallHexDigit (c : Char) : Bool := c.isDigit || ('a' ≤ c && c ≤ 'f')

/-- Whether three parts of a colour are given, each at most 255. All of them must be numbers. -/
def isTriple (cs : List Char) : Except Error Bool :=
  match Text.parts ',' cs with
  | [a, b, c] =>
    match Numeral.int? a, Numeral.int? b, Numeral.int? c with
    | some r, some g, some b => .ok (r ≤ 255 && g ≤ 255 && b ≤ 255)
    | _, _, _ => .error (.foreign .invalidValue "a part of a colour is no number")
  | _ => .ok false

/-- Whether a word is a colour: by name, by number, or by its parts. -/
def isColour (word : String) : Except Error Bool :=
  let cs := word.toList
  match cs with
  | '#' :: digits => .ok (digits.length = 6 && digits.all isSmallHexDigit)
  | _ =>
    match bracketed? "color" cs, bracketed? "rgb" cs with
    | some number, _ =>
      .ok (number.length ∈ [1, 2, 3] && number.all Char.isDigit &&
        (Numeral.int? number).any (· ≤ 255))
    | _, some triple =>
      if !triple.isEmpty && triple.all (fun c => c = ',' || (Text.digitValue? c).isSome) then
        isTriple triple
      else .ok false
    | _, _ => .ok (isColourName word)

structure Style where
  /-- Attributes by name, and whether each is set or negated. The latest comes first. -/
  attributes : List (String × Bool) := []
  colour : Option String := none
  ground : Option String := none
  link : Option String := none
  deriving DecidableEq, Repr

namespace Style

/-- The style that words describe; none if they describe no style. -/
def ofWords? (s : Style) : List String → Except Error (Option Style)
  | [] => .ok (some s)
  | word :: rest =>
    let lower := Text.lower word
    match lower, rest with
    | "on", c :: rest => do
      if ← isColour (Text.lower c) then ofWords? { s with ground := some (Text.lower c) } rest
      else return none
    | "not", name :: rest =>
      match attribute? name with
      | some a => ofWords? { s with attributes := (a, false) :: s.attributes } rest
      | none => .ok none
    | "link", target :: rest => ofWords? { s with link := some target } rest
    | "on", [] | "not", [] | "link", [] => .ok none
    | lower, rest =>
      match attribute? lower with
      | some a => ofWords? { s with attributes := (a, true) :: s.attributes } rest
      | none => do
        if ← isColour lower then ofWords? { s with colour := some lower } rest else return none

/-- The words of a style in the order of the normal form. -/
def words (s : Style) : List String :=
  (CommandLine.attributes.flatMap fun (name, _) =>
    match s.attributes.lookup name with
    | some true => [name]
    | some false => ["not", name]
    | none => []) ++
    s.colour.toList ++ (s.ground.map (["on", ·])).getD [] ++ (s.link.map (["link", ·])).getD []

/-- The normal form of a text that describes a style; another is trimmed and in small letters. -/
def normal (text : List Char) : Except Error String := do
  let words := (Text.words Text.isBlank text).map String.ofList
  if words = ["none"] then return "none"
  match ← ofWords? {} words with
  | some s => return " ".intercalate s.words
  | none => return Text.lower (String.ofList (Text.trim text))

end Style
end ProcessTriggers.CommandLine
