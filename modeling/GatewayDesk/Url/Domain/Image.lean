import GatewayDesk.Url.Domain.Table

/-!
# Letters in domains

Domains do not tell large letters from small ones, nor characters from their compatible forms:
`Domain.image?` is what a character stands for in a domain.

`image?_ascii` says that of the characters of ASCII the large letters alone stand for others.
-/

namespace GatewayDesk

namespace Domain

/-- The character that a character in a run stands for. -/
def shifted? (n : Nat) : Option Char :=
  match shifts.find? fun (first, last, step, _) => first ≤ n && n ≤ last && (n - first) % step == 0
  with
  | some (_, _, _, distance) => some (Char.ofNat ((n : Int) + distance).toNat)
  | none => none

/-- The last row of a table in ascending order that starts at `n` or before it, among those with
index from `low` to below `high`. -/
def rowBefore? (table : Array (Nat × String)) (n low high fuel : Nat) : Option (Nat × String) :=
  match fuel with
  | 0 => none
  | fuel + 1 =>
    if low < high then
      let mid := (low + high) / 2
      match table[mid]? with
      | none => none
      | some (first, images) =>
        if n < first then rowBefore? table n low mid fuel
        else (rowBefore? table n (mid + 1) high fuel).or (some (first, images))
    else none

/-- The text that a character in a row stands for. -/
def listed? (n : Nat) : Option (List Char) := do
  let (first, images) ← rowBefore? imageRows n 0 imageRows.size (imageRows.size + 1)
  let image ← (images.splitOn "|")[n - first]?
  some image.toList

/-- What a character stands for in a domain; none if no domain may hold it. -/
def image? (c : Char) : Option (List Char) :=
  let n := c.toNat
  if n < 0x80 then some [c.toLower]
  else if RangeTable.holds refusedRanges n then none
  else if RangeTable.holds silentRanges n then some []
  else
    match shifted? n with
    | some image => some [image]
    | none => some ((listed? n).getD [c])

theorem image?_ascii {c : Char} (h : c.toNat < 0x80) : image? c = some [c.toLower] := by
  simp [image?, h]

/-- Whether a character stands for itself. -/
def isSettled (c : Char) : Bool := image? c == some [c]

end Domain

end GatewayDesk
