/-!
# Digits

Naturals and integers in positional notation: `digits` writes a natural in base ten, `ofDigits`
reads one in any base, and `decimal` writes an integer.
-/

namespace GatewayDesk

namespace Digits

/-- The character of a digit below ten. -/
def char (d : Nat) : Char := Char.ofNat (48 + d)

/-- The character of a digit below sixteen, in lower case. -/
def hexChar (d : Nat) : Char := if d < 10 then char d else Char.ofNat (87 + d)

/-- The character of a digit below sixteen, in upper case. -/
def upperHexChar (d : Nat) : Char := if d < 10 then char d else Char.ofNat (55 + d)

/-- Whether the character is one of the ten ASCII digits. -/
def isDigit (c : Char) : Bool := 48 ≤ c.toNat && c.toNat ≤ 57

/-- The value of a decimal digit. -/
def value (c : Char) : Nat := c.toNat - 48

/-- The value of a digit of base sixteen, in either case. -/
def hexValue? (c : Char) : Option Nat :=
  let n := c.toNat
  if 48 ≤ n && n ≤ 57 then some (n - 48)
  else if 97 ≤ n && n ≤ 102 then some (n - 87)
  else if 65 ≤ n && n ≤ 70 then some (n - 55)
  else none

/-- The digits of a natural in base ten, the first one not zero unless it is the only one. -/
def digits (n : Nat) : List Char :=
  if n < 10 then [char n] else digits (n / 10) ++ [char (n % 10)]
termination_by n

/-- The natural that a row of decimal digits spells. -/
def ofDigits (cs : List Char) : Nat :=
  cs.foldl (fun n c => n * 10 + value c) 0

/-- The natural that a row of digits spells in a base, if all of them are digits there. -/
def ofDigits? (base : Nat) (cs : List Char) : Option Nat :=
  cs.foldlM (fun n c =>
    match hexValue? c with
    | some d => if d < base then some (n * base + d) else none
    | none => none) 0

/-- An integer in base ten. -/
def decimal (z : Int) : List Char :=
  if z < 0 then '-' :: digits z.natAbs else digits z.natAbs

/-- A natural in base sixteen, in lower case. -/
def hex (n : Nat) : List Char :=
  if n < 16 then [hexChar n] else hex (n / 16) ++ [hexChar (n % 16)]
termination_by n

/-- A natural in base sixteen, in lower case, with at least `width` digits. -/
def hexPadded (width n : Nat) : List Char :=
  let cs := hex n
  List.replicate (width - cs.length) '0' ++ cs

/-- A natural in base sixteen, in upper case, with at least `width` digits. -/
def upperHexPadded (width n : Nat) : List Char :=
  (hexPadded width n).map fun c => if c.toNat ≤ 57 then c else Char.ofNat (c.toNat - 32)

end Digits

end GatewayDesk
