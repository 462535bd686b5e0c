import GatewayDesk.Text.Normal.Table
import GatewayDesk.Text.RangeTable

/-!
# The normal form of texts

A letter with marks can be written in several ways: as one character, or as several. The normal form
takes every composite apart, puts the marks of each letter in order, and joins as much as can be
joined: it is the normalization form C of Unicode, for texts without characters that decompose into
a single one or never compose.
-/

namespace GatewayDesk

namespace Text

namespace Normal

/-- The combining class of a character; that of a character that is no mark is zero. -/
def rank (c : Char) : Nat := (RangeTable.get? classRanges c.toNat).getD 0

/-! ## Composites -/

/-- Whether a character is a Korean syllable. -/
def isSyllable (n : Nat) : Bool := 0xAC00 ≤ n && n < 0xD7A4

/-- The composites as a table of ranges. -/
def compositeRanges : Array (Nat × Nat × Nat × Nat) := composites.map fun (c, a, b) => (c, c, a, b)

/-- What a character is made of: a character, and the one that joined it last. -/
def halves? (c : Char) : Option (Char × Char) :=
  let n := c.toNat
  if isSyllable n then
    let s := n - 0xAC00
    if s % 28 = 0 then some (Char.ofNat (0x1100 + s / 588), Char.ofNat (0x1161 + s % 588 / 28))
    else some (Char.ofNat (n - s % 28), Char.ofNat (0x11A7 + s % 28))
  else (RangeTable.get? compositeRanges n).map fun (a, b) => (Char.ofNat a, Char.ofNat b)

/-- What two characters join to. -/
def joined? (a b : Char) : Option Char :=
  let m := a.toNat
  let n := b.toNat
  if 0x1100 ≤ m && m < 0x1113 && 0x1161 ≤ n && n < 0x1176 then
    some (Char.ofNat (0xAC00 + ((m - 0x1100) * 21 + (n - 0x1161)) * 28))
  else if isSyllable m && (m - 0xAC00) % 28 == 0 && 0x11A7 < n && n < 0x11C3 then
    some (Char.ofNat (m + (n - 0x11A7)))
  else (composites.find? fun (_, x, y) => x == m && y == n).map fun (c, _, _) => Char.ofNat c

/-! ## Three steps -/

/-- The characters that a character is made of; no composite is nested deeper than `depth`. -/
def apart (depth : Nat) (c : Char) : List Char :=
  match depth with
  | 0 => [c]
  | depth + 1 =>
    match halves? c with
    | some (a, b) => apart depth a ++ [b]
    | none => [c]

/-- Puts a mark before marks that are in order. -/
def place (mark : Char) : List Char → List Char
  | [] => [mark]
  | c :: rest =>
    if 0 < rank c && rank c < rank mark then c :: place mark rest else mark :: c :: rest

/-- Puts the marks of each letter in the order of their classes; equal ones stay as they are. -/
def arrange : List Char → List Char
  | [] => []
  | c :: rest => if rank c = 0 then c :: arrange rest else place c (arrange rest)

/-- Joins what can be joined: `letter` is the letter so far, and `kept` are the marks after it that
did not join, the last one first. A mark joins unless one of its class or a higher one stands
between. -/
def compose (letter : Char) (kept : List Char) : List Char → List Char
  | [] => letter :: kept.reverse
  | c :: rest =>
    match if kept.head?.all (rank · < rank c) then joined? letter c else none with
    | some letter => compose letter kept rest
    | none =>
      if rank c = 0 then letter :: kept.reverse ++ compose c [] rest
      else compose letter (c :: kept) rest

/-- Joins what can be joined, after the marks that no letter stands before. -/
def composeAll : List Char → List Char
  | [] => []
  | c :: rest => if rank c = 0 then compose c [] rest else c :: composeAll rest

/-- The normal form of a text. -/
def form (cs : List Char) : List Char := composeAll (arrange (cs.flatMap (apart 8)))

end Normal

end Text

end GatewayDesk
