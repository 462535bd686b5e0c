import GatewayDesk.Text.Case

/-!
# Painted text

Terminals take sequences of characters that start with ESC as orders about colour and weight.
Painted text starts with such a sequence and ends with one that takes all paint away; where
painting is switched off, the text stays as it is.
-/

namespace GatewayDesk

/-- A colour of a terminal. -/
inductive Color where
  | black
  | red
  | green
  | yellow
  | blue
  | magenta
  | cyan
  | white
  | brightBlack
  | brightRed
  | brightGreen
  | brightYellow
  | brightBlue
  | brightMagenta
  | brightCyan
  | brightWhite
  deriving DecidableEq, Repr

namespace Color

/-- The number that orders a colour. -/
def code : Color → String
  | .black => "30"
  | .red => "31"
  | .green => "32"
  | .yellow => "33"
  | .blue => "34"
  | .magenta => "35"
  | .cyan => "36"
  | .white => "37"
  | .brightBlack => "90"
  | .brightRed => "91"
  | .brightGreen => "92"
  | .brightYellow => "93"
  | .brightBlue => "94"
  | .brightMagenta => "95"
  | .brightCyan => "96"
  | .brightWhite => "97"

/-- The names of the colours. -/
def names : List (String × Color) :=
  [("black", .black), ("red", .red), ("green", .green), ("yellow", .yellow), ("blue", .blue),
    ("magenta", .magenta), ("purple", .magenta), ("cyan", .cyan), ("white", .white),
    ("bright black", .brightBlack), ("bright red", .brightRed), ("bright green", .brightGreen),
    ("bright yellow", .brightYellow), ("bright blue", .brightBlue),
    ("bright magenta", .brightMagenta), ("bright cyan", .brightCyan),
    ("bright white", .brightWhite)]

end Color

/-- The colour of a name in any case; a name of no colour is white. -/
def Color.ofName (name : String) : Color :=
  (Color.names.lookup (name.map Text.small)).getD .white

/-- How text is painted. -/
inductive Paint where
  | bold
  | dim
  | italic
  | color (color : Color)
  /-- Bold, and in a colour. -/
  | boldColor (color : Color)
  deriving DecidableEq, Repr

namespace Paint

/-- What takes all paint away. -/
def plainAgain : List Char := ['\x1b', '[', '0', 'm']

/-- What starts a paint. -/
def start (paint : Paint) : List Char :=
  let order :=
    match paint with
    | .bold => "1"
    | .dim => "2"
    | .italic => "3"
    | .color c => c.code
    | .boldColor c => "1;" ++ c.code
  '\x1b' :: '[' :: (order.toList ++ ['m'])

/-- The text with the paint started again wherever the text itself takes it away. -/
def renew (paint : Paint) : List Char → List Char
  | '\x1b' :: '[' :: '0' :: 'm' :: rest => plainAgain ++ paint.start ++ renew paint rest
  | c :: rest => c :: renew paint rest
  | [] => []

/-- The painted text, or the text itself where nothing is painted. -/
def apply (painting : Bool) (paint : Paint) (text : String) : String :=
  if painting then
    String.ofList (paint.start ++ renew paint text.toList ++ plainAgain)
  else text

end Paint

end GatewayDesk
