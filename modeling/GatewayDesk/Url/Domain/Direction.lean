import GatewayDesk.Url.Domain.DirectionTable

/-!
# Directions of labels

Where a label of a domain is written from right to left, or holds Arabic numbers, no label may mix
directions: each one starts with a letter, goes on in the direction of that letter, and ends with a
letter or a number.
-/

namespace GatewayDesk

namespace Domain

/-- The direction of a character. -/
inductive Direction where
  | left
  | right
  | number
  | arabicNumber
  /-- That of the character before. -/
  | attached
  | neutral
  deriving DecidableEq, Repr

/-- The direction of a character. -/
def Direction.of (c : Char) : Direction :=
  let n := c.toNat
  if n < 0x80 then
    if c.isAlpha then .left else if c.isDigit then .number else .neutral
  else if RangeTable.holds rightRanges n then .right
  else if RangeTable.holds arabicNumberRanges n then .arabicNumber
  else if RangeTable.holds numberRanges n then .number
  else if RangeTable.holds attachedRanges n then .attached
  else if RangeTable.holds neutralRanges n then .neutral
  else .left

/-- Whether a direction asks for labels that do not mix. -/
def Direction.isMarked (d : Direction) : Bool := d == .right || d == .arabicNumber

/-- The directions without the attached ones at their end. -/
def withoutAttached (ds : List Direction) : List Direction :=
  (ds.reverse.dropWhile (· == .attached)).reverse

/-- Whether directions are those of one label. -/
def flows (ds : List Direction) : Bool :=
  let last := (withoutAttached ds).getLast?
  match ds.head? with
  | none => true
  | some .left => !ds.any Direction.isMarked && (last == some .left || last == some .number)
  | some .right =>
    !ds.contains .left && last != some .neutral &&
      !(ds.contains .number && ds.contains .arabicNumber)
  | _ => false

/-- Whether the labels of a domain do not mix directions where they must not. -/
def flowTogether (labels : List (List Char)) : Bool :=
  let directions := labels.map (·.map Direction.of)
  !directions.any (·.any Direction.isMarked) || directions.all flows

end Domain

end GatewayDesk
