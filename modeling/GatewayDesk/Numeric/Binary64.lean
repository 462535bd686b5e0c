/-!
# Binary floating point with 53 significant bits

`Binary64` holds the finite values `± mantissa · 2 ^ exponent` of the format, each in one way, the
two zeros apart by their sign. `ofRatio?` rounds an exact ratio to the nearest value, halves to the
even mantissa; a product and a quotient are the exact ones, rounded. A result beyond the largest
finite value is none.
-/

namespace GatewayDesk

/-- A finite value: the exponent is as small as the format allows for the mantissa. -/
structure Binary64 where
  /-- The sign, also of zero. -/
  negative : Bool
  mantissa : Nat
  exponent : Int
  canonical : mantissa < 0x20000000000000 ∧ -1074 ≤ exponent ∧ exponent ≤ 971 ∧
    (mantissa < 0x10000000000000 → exponent = -1074)
  deriving DecidableEq, Repr

namespace Binary64

/-- Zero with a sign. -/
def zero (negative : Bool) : Binary64 := ⟨negative, 0, -1074, by decide⟩

/-- Whether the value is one of the two zeros. -/
def isZero (x : Binary64) : Bool := x.mantissa == 0

/-- The value of the other sign. -/
def neg (x : Binary64) : Binary64 := { x with negative := !x.negative }

/-- Equality of the values denoted: the two zeros are equal. -/
def same (x y : Binary64) : Bool := x == y || (x.isZero && y.isZero)

/-- The value of these parts, if they are the parts of a finite value. -/
def ofParts? (negative : Bool) (mantissa : Nat) (exponent : Int) : Option Binary64 :=
  if h : mantissa < 0x20000000000000 ∧ -1074 ≤ exponent ∧ exponent ≤ 971 ∧
      (mantissa < 0x10000000000000 → exponent = -1074) then
    some ⟨negative, mantissa, exponent, h⟩
  else none

/-! ## Rounding -/

/-- The quotient rounded to nearest, halves to even. -/
def roundDiv (num den : Nat) : Nat :=
  let q := num / den
  let r := num % den
  if 2 * r < den then q
  else if den < 2 * r then q + 1
  else if q % 2 == 0 then q else q + 1

/-- `num / den` in units of `2 ^ e`, as a ratio of naturals. -/
def scaled (num den : Nat) (e : Int) : Nat × Nat :=
  match e with
  | .ofNat k => (num, den * Nat.pow 2 k)
  | .negSucc k => (num * Nat.pow 2 (k + 1), den)

/-- The exponent of the unit in the last place of `num / den`. -/
def unitExponent (num den : Nat) : Int :=
  let high : Int := (num.log2 : Int) - (den.log2 : Int) - 52
  let (n, d) := scaled num den high
  max (-1074) (if 0x10000000000000 ≤ n / d then high else high - 1)

/-- The value nearest to `± num / den`, none if that is beyond the finite ones. -/
def ofRatio? (negative : Bool) (num den : Nat) : Option Binary64 :=
  if num == 0 then some (zero negative)
  else
    let e := unitExponent num den
    let (n, d) := scaled num den e
    let m := roundDiv n d
    if m == 0x20000000000000 then ofParts? negative 0x10000000000000 (e + 1)
    else ofParts? negative m e

/-- The value nearest to a natural below `2 ^ 64`. -/
def ofWord (negative : Bool) (n : Nat) : Binary64 :=
  (ofRatio? negative n 1).getD (zero negative)

/-- The value nearest to `± coefficient · 10 ^ e`. -/
def ofDecimal? (negative : Bool) (coefficient : Nat) (e : Int) : Option Binary64 :=
  -- the magnitude lies between `10 ^ least` and `10 ^ most`
  let least : Int := (coefficient.log2 * 3 / 10 : Nat) + e
  let most : Int := (coefficient.log2 / 3 + 1 : Nat) + e
  if coefficient == 0 || most < -400 then some (zero negative)
  else if 400 < least then none
  else
    match e with
    | .ofNat k => ofRatio? negative (coefficient * Nat.pow 10 k) 1
    | .negSucc k => ofRatio? negative coefficient (Nat.pow 10 (k + 1))

/-! ## Arithmetic -/

/-- `mantissa · 2 ^ exponent` as a ratio. -/
def ratio (x : Binary64) : Nat × Nat :=
  match x.exponent with
  | .ofNat k => (x.mantissa * Nat.pow 2 k, 1)
  | .negSucc k => (x.mantissa, Nat.pow 2 (k + 1))

/-- The product. -/
def mul? (x y : Binary64) : Option Binary64 :=
  let (a, b) := x.ratio
  let (c, d) := y.ratio
  ofRatio? (x.negative != y.negative) (a * c) (b * d)

/-- The quotient by a value that is not zero. -/
def div? (x y : Binary64) : Option Binary64 :=
  let (a, b) := x.ratio
  let (c, d) := y.ratio
  ofRatio? (x.negative != y.negative) (a * d) (b * c)

/-- The power of ten, for exponents that the format holds. -/
def tenPow (k : Nat) : Binary64 :=
  (ofRatio? false (Nat.pow 10 k) 1).getD (zero false)

end Binary64

end GatewayDesk
