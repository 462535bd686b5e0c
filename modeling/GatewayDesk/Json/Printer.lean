import GatewayDesk.Json.Basic

/-!
# Writing JSON

`Json.compact` writes a value without white space, `Json.indented` with one item or member to a line
and two blanks to a level. Both escape the same characters: quotes, backslashes and controls.
-/

namespace GatewayDesk

namespace Json

namespace Printer

/-- A character as it stands in a string. -/
def escaped (c : Char) : List Char :=
  match c with
  | '"' => ['\\', '"']
  | '\\' => ['\\', '\\']
  | '\x08' => ['\\', 'b']
  | '\x0c' => ['\\', 'f']
  | '\n' => ['\\', 'n']
  | '\r' => ['\\', 'r']
  | '\t' => ['\\', 't']
  | c => if c.toNat < 0x20 then '\\' :: 'u' :: Digits.hexPadded 4 c.toNat else [c]

/-- A string with its quotes. -/
def text (s : String) : List Char :=
  '"' :: (s.toList.flatMap escaped ++ ['"'])

/-! ## Without white space -/

mutual

/-- A value. -/
def value : Json → List Char
  | .null => ['n', 'u', 'l', 'l']
  | .boolean true => ['t', 'r', 'u', 'e']
  | .boolean false => ['f', 'a', 'l', 's', 'e']
  | .number n => n.text
  | .string s => text s
  | .array [] => ['[', ']']
  | .array (first :: rest) => '[' :: (value first ++ items rest)
  | .object [] => ['\x7b', '\x7d']
  | .object ((key, first) :: rest) =>
    '\x7b' :: (text key ++ ':' :: (value first ++ members rest))

/-- The items after the first, and the end of the array. -/
def items : List Json → List Char
  | [] => [']']
  | item :: rest => ',' :: (value item ++ items rest)

/-- The members after the first, and the end of the object. -/
def members : Members → List Char
  | [] => ['\x7d']
  | (key, item) :: rest => ',' :: (text key ++ ':' :: (value item ++ members rest))

end

/-! ## On lines -/

/-- A new line at a level. -/
def line (level : Nat) : List Char := '\n' :: List.replicate (2 * level) ' '

mutual

/-- A value at a level. -/
def valueAt (level : Nat) : Json → List Char
  | .array [] => ['[', ']']
  | .array (first :: rest) =>
    '[' :: (line (level + 1) ++ valueAt (level + 1) first ++ itemsAt level rest)
  | .object [] => ['\x7b', '\x7d']
  | .object ((key, first) :: rest) =>
    '\x7b' :: (line (level + 1) ++ text key ++ ':' :: ' ' ::
      (valueAt (level + 1) first ++ membersAt level rest))
  | .null => ['n', 'u', 'l', 'l']
  | .boolean true => ['t', 'r', 'u', 'e']
  | .boolean false => ['f', 'a', 'l', 's', 'e']
  | .number n => n.text
  | .string s => text s

/-- The items after the first, and the end of the array. -/
def itemsAt (level : Nat) : List Json → List Char
  | [] => line level ++ [']']
  | item :: rest =>
    ',' :: (line (level + 1) ++ valueAt (level + 1) item ++ itemsAt level rest)

/-- The members after the first, and the end of the object. -/
def membersAt (level : Nat) : Members → List Char
  | [] => line level ++ ['\x7d']
  | (key, item) :: rest =>
    ',' :: (line (level + 1) ++ text key ++ ':' :: ' ' ::
      (valueAt (level + 1) item ++ membersAt level rest))

end

end Printer

/-- The text of a value without white space. -/
def compact (value : Json) : String := String.ofList (Printer.value value)

/-- The text of a value with one item or member to a line. -/
def indented (value : Json) : String := String.ofList (Printer.valueAt 0 value)

end Json

end GatewayDesk
