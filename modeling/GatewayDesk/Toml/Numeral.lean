import GatewayDesk.Numeric.Binary64
import GatewayDesk.Numeric.DecimalText

/-!
# Numbers

Integers have 64 bits and are written in base ten, or in base two, eight or sixteen after a mark.
Floating-point numbers have a fraction part, an exponent or both, or are named. A single underscore
may stand between digits.
-/

namespace GatewayDesk

namespace Toml

/-- A floating-point number. -/
inductive Real where
  | finite (value : Binary64)
  | infinity (negative : Bool)
  | notNumber
  deriving DecidableEq, Repr

/-- An integer of 64 bits. -/
abbrev Integer := { z : Int // -0x8000000000000000 ≤ z ∧ z < 0x8000000000000000 }

namespace Numeral

/-- The digits of a row, which single underscores may part; none for a row without a digit. -/
def digits? (isDigit : Char → Bool) : List Char → Option (List Char)
  | [] => none
  | [c] => if isDigit c then some [c] else none
  | c :: '_' :: rest => if isDigit c then (digits? isDigit rest).map (c :: ·) else none
  | c :: rest => if isDigit c then (digits? isDigit rest).map (c :: ·) else none

/-- The digits of a row in base ten that starts with no needless zero. -/
def whole? (cs : List Char) : Option (List Char) :=
  match digits? Digits.isDigit cs with
  | some ('0' :: _ :: _) => none
  | other => other

/-- An integer, if it has 64 bits. -/
def fit? (z : Int) : Option Integer :=
  if h : -0x8000000000000000 ≤ z ∧ z < 0x8000000000000000 then some ⟨z, h⟩ else none

/-- Whether a character is a digit of a base. -/
def isDigitOf (base : Nat) (c : Char) : Bool :=
  match Digits.hexValue? c with
  | some d => d < base
  | none => false

/-- The integer in another base that follows its mark. -/
def marked? (base : Nat) (cs : List Char) : Option Integer := do
  let ds ← digits? (isDigitOf base) cs
  let n ← Digits.ofDigits? base ds
  fit? n

/-- The integer that a word spells. -/
def integer? (cs : List Char) : Option Integer :=
  match cs with
  | '0' :: 'x' :: rest => marked? 16 rest
  | '0' :: 'o' :: rest => marked? 8 rest
  | '0' :: 'b' :: rest => marked? 2 rest
  | _ => do
    let (negative, unsigned) := DecimalText.sign cs
    let ds ← whole? unsigned
    fit? (if negative then -(Digits.ofDigits ds : Int) else Digits.ofDigits ds)

/-- Whether a character may stand in the digits of a number. -/
def isRow (c : Char) : Bool := Digits.isDigit c || c == '_'

/-- The fraction part at the front of a text: its digits, empty if there is none. -/
def fraction? (cs : List Char) : Option (List Char × List Char) :=
  match cs with
  | '.' :: rest => do
    let ds ← digits? Digits.isDigit (rest.takeWhile isRow)
    some (ds, rest.dropWhile isRow)
  | _ => some ([], cs)

/-- The exponent that a whole text spells, zero if it is empty. -/
def exponent? (cs : List Char) : Option Int :=
  match cs with
  | [] => some 0
  | c :: rest =>
    if c == 'e' || c == 'E' then do
      let (negative, unsigned) := DecimalText.sign rest
      let ds ← digits? Digits.isDigit unsigned
      some (if negative then -(Digits.ofDigits ds : Int) else Digits.ofDigits ds)
    else none

/-- The number that a word without a sign spells by a name. -/
def named? (negative : Bool) (cs : List Char) : Option Real :=
  if cs == ['i', 'n', 'f'] then some (.infinity negative)
  else if cs == ['n', 'a', 'n'] then some .notNumber
  else none

/-- The floating-point number that a word spells. Too large a number is refused, and too small a one
is the negative infinity. -/
def real? (cs : List Char) : Option Real :=
  let (negative, unsigned) := DecimalText.sign cs
  match named? negative unsigned with
  | some x => some x
  | none => do
    let whole ← whole? (unsigned.takeWhile isRow)
    let rest := unsigned.dropWhile isRow
    let (fraction, rest') ← fraction? rest
    let exponent ← exponent? rest'
    if rest.isEmpty then none
    else
      match Binary64.ofDecimal? negative (Digits.ofDigits (whole ++ fraction))
          (exponent - fraction.length) with
      | some x => some (.finite x)
      | none => if negative then some (.infinity true) else none

end Numeral

end Toml

end GatewayDesk
