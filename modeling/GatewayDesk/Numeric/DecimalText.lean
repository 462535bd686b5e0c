import GatewayDesk.Numeric.Digits

/-!
# Decimal fractions in writing

`DecimalText.read?` reads a sign, digits with or without a point among them, and an exponent. Only
the digits are required, one before or after the point.
-/

namespace GatewayDesk

/-- A decimal `± coefficient · 10 ^ exponent`. -/
structure DecimalText where
  negative : Bool
  coefficient : Nat
  exponent : Int
  deriving DecidableEq, Repr

namespace DecimalText

/-- Whether a minus sign stands at the front, and the text after the sign. -/
def sign (cs : List Char) : Bool × List Char :=
  match cs with
  | '-' :: rest => (true, rest)
  | '+' :: rest => (false, rest)
  | _ => (false, cs)

/-- The exponent that a whole text spells, zero for the empty text. -/
def exponent? (cs : List Char) : Option Int :=
  match cs with
  | [] => some 0
  | c :: rest =>
    let (negative, ds) := sign rest
    if (c == 'e' || c == 'E') && !ds.isEmpty && ds.all Digits.isDigit then
      some (if negative then -(Digits.ofDigits ds : Int) else Digits.ofDigits ds)
    else none

/-- The decimal that a whole text spells. -/
def read? (cs : List Char) : Option DecimalText := do
  let (negative, cs) := sign cs
  let whole := cs.takeWhile Digits.isDigit
  let rest := cs.dropWhile Digits.isDigit
  let (fraction, rest) :=
    match rest with
    | '.' :: rest => (rest.takeWhile Digits.isDigit, rest.dropWhile Digits.isDigit)
    | _ => ([], rest)
  let digits := whole ++ fraction
  if digits.isEmpty then none
  else
    let exponent ← exponent? rest
    some ⟨negative, Digits.ofDigits digits, exponent - fraction.length⟩

end DecimalText

end GatewayDesk
