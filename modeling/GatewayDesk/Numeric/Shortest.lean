import GatewayDesk.Numeric.Digits
import GatewayDesk.Numeric.Binary64

/-!
# The fewest digits that read back

`Shortest.of` gives a finite value as `coefficient · 10 ^ exponent` with the fewest digits among the
decimals that round to it, and of those the nearest. `FloatText` writes that decimal: `scientific`
uses an exponent for very large and very small values, `positional` never does. Both keep a
fraction part, so that the text is never that of an integer.
-/

namespace GatewayDesk

/-- A decimal `coefficient · 10 ^ exponent`. -/
structure Shortest where
  coefficient : Nat
  exponent : Int
  deriving DecidableEq, Repr

namespace Shortest

/-- Twice the value and twice the ends of the interval that rounds to it, over one denominator. -/
structure Interval where
  low : Nat
  value : Nat
  high : Nat
  denominator : Nat
  /-- Whether the ends themselves round to the value. -/
  closed : Bool

/-- The interval of the reals that round to a nonzero value. -/
def interval (x : Binary64) : Interval :=
  let m := x.mantissa
  let closed := m % 2 == 0
  -- below a power of two the neighbours are closer by half
  let narrow := m == 0x10000000000000 && x.exponent != -1074
  let (low, value, high) :=
    if narrow then (4 * m - 1, 4 * m, 4 * m + 2) else (4 * m - 2, 4 * m, 4 * m + 2)
  match x.exponent with
  | .ofNat k => ⟨low * Nat.pow 2 k, value * Nat.pow 2 k, high * Nat.pow 2 k, 4, closed⟩
  | .negSucc k => ⟨low, value, high, 4 * Nat.pow 2 (k + 1), closed⟩

/-- Whether `c · 10 ^ e` lies in the interval. -/
def Interval.holds (i : Interval) (c : Nat) (e : Int) : Bool :=
  let (num, den) :=
    match e with
    | .ofNat k => (c * Nat.pow 10 k, 1)
    | .negSucc k => (c, Nat.pow 10 (k + 1))
  let here := num * i.denominator
  if i.closed then i.low * den ≤ here && here ≤ i.high * den
  else i.low * den < here && here < i.high * den

/-- The floor of the interval's value in units of `10 ^ e`, and whether the value is nearer to the
next unit above. -/
def Interval.floor (i : Interval) (e : Int) : Nat × Bool :=
  let (num, den) :=
    match e with
    | .ofNat k => (i.value, i.denominator * Nat.pow 10 k)
    | .negSucc k => (i.value * Nat.pow 10 (k + 1), i.denominator)
  let q := num / den
  let r := num % den
  (q, den < 2 * r || (den == 2 * r && q % 2 == 1))

/-- The decimal exponent of the leading digit of the value. -/
def Interval.leading (i : Interval) : Int :=
  let n := i.value
  let d := i.denominator
  if d ≤ n then ((Digits.digits (n / d)).length : Int) - 1
  else
    let k : Nat := (Digits.digits (d / n)).length
    if d ≤ n * Nat.pow 10 (k - 1) then 1 - (k : Int) else -(k : Int)

/-- The neighbours on the grid of `count` digits, tried for a growing number of digits; `fuel`
bounds the number of further digits tried. -/
def search (i : Interval) (leading : Int) (count : Nat) (fuel : Nat) : Shortest :=
  let e := leading - (count : Int) + 1
  let (below, up) := i.floor e
  let first := if up then below + 1 else below
  let second := if up then below else below + 1
  if i.holds first e then ⟨first, e⟩
  else if i.holds second e then ⟨second, e⟩
  else
    match fuel with
    | 0 => ⟨first, e⟩
    | fuel + 1 => search i leading (count + 1) fuel

/-- The decimal without the zeros at its end. -/
def strip (c : Nat) (e : Int) (fuel : Nat) : Shortest :=
  match fuel with
  | 0 => ⟨c, e⟩
  | fuel + 1 => if c % 10 == 0 && c != 0 then strip (c / 10) (e + 1) fuel else ⟨c, e⟩

/-- The shortest decimal of the magnitude of a value. -/
def of (x : Binary64) : Shortest :=
  if x.isZero then ⟨0, 0⟩
  else
    let i := interval x
    let s := search i i.leading 1 16
    strip s.coefficient s.exponent 20

end Shortest

namespace FloatText

/-- Digits with the point after `whole` of them, and a fraction part in any case. -/
def withPoint (ds : List Char) (whole : Int) : List Char :=
  let n : Int := ds.length
  if whole ≤ 0 then '0' :: '.' :: (List.replicate (-whole).toNat '0' ++ ds)
  else if n ≤ whole then ds ++ List.replicate (whole - n).toNat '0' ++ ['.', '0']
  else ds.take whole.toNat ++ '.' :: ds.drop whole.toNat

/-- The sign as it is written. -/
def sign (x : Binary64) : List Char := if x.negative then ['-'] else []

/-- The text of a value without an exponent. -/
def positional (x : Binary64) : List Char :=
  let s := Shortest.of x
  let ds := Digits.digits s.coefficient
  sign x ++ withPoint ds ((ds.length : Int) + s.exponent)

/-- The text of a value: positional from `10 ^ -5` to below `10 ^ 16`, else one digit before the
point and an exponent with its sign. -/
def scientific (x : Binary64) : List Char :=
  let s := Shortest.of x
  let ds := Digits.digits s.coefficient
  let leading := (ds.length : Int) + s.exponent - 1
  if x.isZero || (-5 ≤ leading && leading < 16) then
    sign x ++ withPoint ds (leading + 1)
  else
    let fraction :=
      match ds with
      | [] => []
      | [d] => [d]
      | d :: rest => d :: '.' :: rest
    sign x ++ fraction ++ 'e' :: (if leading < 0 then ['-'] else ['+']) ++
      Digits.digits leading.natAbs

end FloatText

end GatewayDesk
