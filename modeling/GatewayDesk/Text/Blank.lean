/-!
# White space

`Char.isBlank` is the Unicode property White_Space. `trim` removes blank characters at both ends
of a text and `trimEnd` at its right end only; `isBlank` says that nothing else is there.
-/

namespace GatewayDesk

/-- The characters with the Unicode property White_Space. -/
def Char.isBlank (c : Char) : Bool :=
  let n := c.toNat
  (9 ≤ n && n ≤ 13) || n == 0x20 || n == 0x85 || n == 0xA0 || n == 0x1680 ||
  (0x2000 ≤ n && n ≤ 0x200A) || n == 0x2028 || n == 0x2029 || n == 0x202F || n == 0x205F ||
  n == 0x3000

namespace Text

/-- The text without the blank characters at its left end. -/
def trimStart (cs : List Char) : List Char :=
  cs.dropWhile Char.isBlank

/-- The text without the blank characters at its right end. -/
def trimEnd (cs : List Char) : List Char :=
  (trimStart cs.reverse).reverse

/-- The text without the blank characters at both ends. -/
def trim (cs : List Char) : List Char :=
  trimEnd (trimStart cs)

/-- Whether the text holds blank characters only. -/
def isBlank (text : String) : Bool :=
  text.toList.all Char.isBlank

end Text

end GatewayDesk
