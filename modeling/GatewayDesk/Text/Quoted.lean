import GatewayDesk.Numeric.Digits
import GatewayDesk.Text.RangeTable
import GatewayDesk.Text.Unprinted

/-!
# Quotations

`Text.quoted` shows a text between double quotes, as messages do: quotes, backslashes and the usual
controls get a backslash, and every other character that would not be seen is spelled by its code
point.
-/

namespace GatewayDesk

namespace Text

/-- Whether a character is shown as itself. -/
def isPrinted (c : Char) : Bool :=
  let n := c.toNat
  if n < 0x80 then 0x20 ≤ n && n < 0x7F else !RangeTable.holds unprintedRanges n

/-- A character as it stands in a quotation. -/
def quotedChar (c : Char) : List Char :=
  match c with
  | '"' => ['\\', '"']
  | '\\' => ['\\', '\\']
  | '\t' => ['\\', 't']
  | '\r' => ['\\', 'r']
  | '\n' => ['\\', 'n']
  | c =>
    if c.toNat = 0 then ['\\', '0']
    else if isPrinted c then [c]
    else '\\' :: 'u' :: '\x7b' :: Digits.hex c.toNat ++ ['\x7d']

/-- A text between double quotes. -/
def quoted (text : String) : String :=
  String.ofList ('"' :: (text.toList.flatMap quotedChar ++ ['"']))

end Text

end GatewayDesk
