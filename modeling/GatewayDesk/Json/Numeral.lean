import GatewayDesk.Json.Basic
import GatewayDesk.Json.Error

/-!
# Numerals

`Numeral` is what has been read of a JSON numeral, one constructor for each place of the grammar.
The significant digits are gathered in 64 bits. Digits that no longer fit are dropped, those before
the point raising the exponent, and the significand is then scaled by a power of ten, with one
rounding for the significand and one for every step of scaling.
-/

namespace GatewayDesk

namespace Json

/-- What has been read of a numeral after its sign. -/
inductive Numeral where
  /-- Only the sign. -/
  | sign
  /-- A leading zero. -/
  | zero
  /-- Digits before the point. -/
  | whole (digits : Nat)
  /-- Digits before the point, the last `dropped` of them not kept. -/
  | long (digits dropped : Nat)
  /-- The point. -/
  | point (digits : Nat) (scale : Nat)
  /-- Digits after the point: the value is `digits · 10 ^ scale`. -/
  | fraction (digits : Nat) (scale : Int)
  /-- Digits after the point, the last ones not kept. -/
  | cut (digits : Nat) (scale : Int)
  /-- The mark of the exponent. -/
  | mark (digits : Nat) (scale : Int)
  /-- The mark of the exponent and its sign. -/
  | markSign (digits : Nat) (scale : Int) (down : Bool)
  /-- The exponent. -/
  | exponent (digits : Nat) (scale : Int) (down : Bool) (exponent : Nat)
  /-- An exponent so large that the value is zero. -/
  | vanished
  deriving DecidableEq, Repr

namespace Numeral

/-- What a character does to a numeral: it is part of it, it comes after its end, or it is a fault,
found this many bytes after the character's start. -/
inductive Step where
  | more (numeral : Numeral)
  | over
  | fault (reason : Reason) (past : Nat)

/-- Whether another digit still fits into 64 bits. -/
def fits (digits d : Nat) : Bool := digits * 10 + d < 0x10000000000000000

/-- The mark of the exponent after digits, or the end. -/
def orMark (c : Char) (digits : Nat) (scale : Int) : Step :=
  if c == 'e' || c == 'E' then .more (.mark digits scale) else .over

/-- Reads one character. -/
def step (n : Numeral) (c : Char) : Step :=
  let d := Digits.value c
  match n with
  | .sign =>
    if c == '0' then .more .zero
    else if Digits.isDigit c then .more (.whole d)
    else .fault .badNumber 1
  | .zero =>
    if Digits.isDigit c then .fault .badNumber 1
    else if c == '.' then .more (.point 0 0)
    else orMark c 0 0
  | .whole m =>
    if Digits.isDigit c then
      if fits m d then .more (.whole (m * 10 + d)) else .more (.long m 1)
    else if c == '.' then .more (.point m 0)
    else orMark c m 0
  | .long m k =>
    if Digits.isDigit c then .more (.long m (k + 1))
    else if c == '.' then .more (.point m k)
    else orMark c m k
  | .point m k =>
    if Digits.isDigit c then
      if fits m d then .more (.fraction (m * 10 + d) (k - 1)) else .more (.cut m k)
    else .fault .badNumber 1
  | .fraction m k =>
    if Digits.isDigit c then
      if fits m d then .more (.fraction (m * 10 + d) (k - 1)) else .more (.cut m k)
    else orMark c m k
  | .cut m k => if Digits.isDigit c then .more (.cut m k) else orMark c m k
  | .mark m k =>
    if c == '+' then .more (.markSign m k false)
    else if c == '-' then .more (.markSign m k true)
    else if Digits.isDigit c then .more (.exponent m k false d)
    else .fault .badNumber 1
  | .markSign m k down =>
    if Digits.isDigit c then .more (.exponent m k down d) else .fault .badNumber 1
  | .exponent m k down e =>
    if Digits.isDigit c then
      if e * 10 + d < 0x80000000 then .more (.exponent m k down (e * 10 + d))
      else if m != 0 && !down then .fault .numberOutOfRange 1
      else .more .vanished
    else .over
  | .vanished => if Digits.isDigit c then .more .vanished else .over

/-- The value times a power of ten, in steps that the format holds. -/
def scaleBy (x : Binary64) (e : Int) : Option Binary64 :=
  if 0 ≤ e then
    if e ≤ 308 then x.mul? (Binary64.tenPow e.toNat) else if x.isZero then some x else none
  else if -308 ≤ e then some ((x.div? (Binary64.tenPow e.natAbs)).getD x)
  else if x.isZero then some x
  else scaleBy ((x.div? (Binary64.tenPow 308)).getD x) (e + 308)
termination_by (-e).toNat
decreasing_by omega

/-- A fraction from its significand and exponent. -/
def scaled (negative : Bool) (digits : Nat) (e : Int) : Except Reason Number :=
  match scaleBy (Binary64.ofWord false digits) e with
  | some x => .ok (.fraction (if negative then x.neg else x))
  | none => .error .numberOutOfRange

/-- An integer from its digits: one that 64 bits do not hold, and minus zero, is a fraction. -/
def integer (negative : Bool) (digits : Nat) : Number :=
  let z : Int := if negative then -digits else digits
  if negative && digits == 0 then .fraction (Binary64.zero true)
  else (Number.ofInt? z).getD (.fraction (Binary64.ofWord negative digits))

/-- The number that a finished numeral denotes. -/
def finish (negative : Bool) : Numeral → Except Reason Number
  | .sign => .error .endInValue
  | .zero => .ok (integer negative 0)
  | .whole m => .ok (integer negative m)
  | .long m k => scaled negative m k
  | .point _ _ => .error .endInValue
  | .fraction m k => scaled negative m k
  | .cut m k => scaled negative m k
  | .mark _ _ => .error .endInValue
  | .markSign _ _ _ => .error .endInValue
  | .exponent m k down e => scaled negative m (if down then k - e else k + e)
  | .vanished => .ok (.fraction (Binary64.zero negative))

end Numeral

end Json

end GatewayDesk
