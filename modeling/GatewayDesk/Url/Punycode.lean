import GatewayDesk.Numeric.Digits

/-!
# Punycode

A label of a domain that has characters beyond ASCII is written with letters and digits: its ASCII
characters first, and after a hyphen the places and values of the others, as differences in numbers
of varying length.
-/

namespace GatewayDesk

namespace Punycode

/-- The character of a digit below thirty-six. -/
def digit (d : Nat) : Char := if d < 26 then Char.ofNat (97 + d) else Char.ofNat (22 + d)

/-- The value of a digit below thirty-six, in either case. -/
def value? (c : Char) : Option Nat :=
  let n := c.toNat
  if 97 ≤ n && n ≤ 122 then some (n - 97)
  else if 65 ≤ n && n ≤ 90 then some (n - 65)
  else if 48 ≤ n && n ≤ 57 then some (n - 22)
  else none

/-- Where the digits at a place stop being the last one. -/
def threshold (place bias : Nat) : Nat :=
  if place ≤ bias then 1 else if bias + 26 ≤ place then 26 else place - bias

/-- Scales a difference down to the range in which thresholds adapt. -/
def scaleDown (delta k fuel : Nat) : Nat :=
  match fuel with
  | 0 => k
  | fuel + 1 =>
    if 455 < delta then scaleDown (delta / 35) (k + 36) fuel else k + 36 * delta / (delta + 38)

/-- The bias after a difference. -/
def adapt (delta points : Nat) (first : Bool) : Nat :=
  let delta := if first then delta / 700 else delta / 2
  scaleDown (delta + delta / points) 0 delta

/-! ## Writing -/

/-- A number of varying length; `fuel` bounds its digits. -/
def number (q place bias fuel : Nat) : List Char :=
  let t := threshold place bias
  match fuel with
  | 0 => []
  | fuel + 1 =>
    if q < t then [digit q]
    else digit (t + (q - t) % (36 - t)) :: number ((q - t) / (36 - t)) (place + 36) bias fuel

/-- What has been written, and the state of the numbers. -/
structure Progress where
  written : List Char
  delta : Nat
  bias : Nat
  /-- How many characters have been dealt with. -/
  handled : Nat

/-- Writes the places of one code point; those of smaller ones have been written. -/
def place (point ascii : Nat) (state : Progress) : List Nat → Progress
  | [] => state
  | n :: rest =>
    if n < point then place point ascii { state with delta := state.delta + 1 } rest
    else if n = point then
      let written := state.written ++ number state.delta 36 state.bias (state.delta + 1)
      let bias := adapt state.delta (state.handled + 1) (state.handled == ascii)
      place point ascii ⟨written, 0, bias, state.handled + 1⟩ rest
    else place point ascii state rest

/-- Writes the places of code points in ascending order; `from_` is the first that may come. -/
def placeAll (input : List Nat) (ascii from_ : Nat) (state : Progress) : List Nat → List Char
  | [] => state.written
  | point :: points =>
    let delta := state.delta + (point - from_) * (state.handled + 1)
    let state := place point ascii { state with delta := delta } input
    placeAll input ascii (point + 1) { state with delta := state.delta + 1 } points

/-- A label in letters, digits and hyphens. -/
def encode (label : List Char) : List Char :=
  let basic := label.filter fun c => c.toNat < 0x80
  let input := label.map Char.toNat
  let points := ((input.filter (0x80 ≤ ·)).mergeSort (fun a b => decide (a ≤ b))).eraseDups
  let start := basic ++ if basic.isEmpty then [] else ['-']
  placeAll input basic.length 0x80 ⟨start, 0, 72, basic.length⟩ points

/-! ## Reading -/

/-- The code points so far, and the state of the number that is being read. -/
structure Reading where
  points : List Nat
  point : Nat
  index : Nat
  bias : Nat
  /-- The index where the number started. -/
  start : Nat
  weight : Nat
  place : Nat

/-- Reads one more digit. -/
def Reading.step (r : Reading) (c : Char) : Option Reading := do
  let d ← value? c
  let index := r.index + d * r.weight
  let t := threshold r.place r.bias
  if 0x100000000 ≤ index then none
  else if d < t then
    let size := r.points.length + 1
    let bias := adapt (index - r.start) size (r.start == 0)
    let point := r.point + index / size
    let index := index % size
    some ⟨r.points.take index ++ point :: r.points.drop index, point, index + 1, bias, index + 1, 1,
      36⟩
  else some { r with index := index, weight := r.weight * (36 - t), place := r.place + 36 }

/-- The label that letters, digits and hyphens spell. -/
def decode? (cs : List Char) : Option (List Char) := do
  let tail := (cs.reverse.takeWhile (· != '-')).reverse
  let basic := cs.take (cs.length - tail.length - 1)
  let r ← tail.foldlM Reading.step ⟨basic.map Char.toNat, 0x80, 0, 72, 0, 1, 36⟩
  if r.place != 36 then none
  else r.points.mapM fun n => if h : n.isValidChar then some (Char.ofNatAux n h) else none

end Punycode

end GatewayDesk
