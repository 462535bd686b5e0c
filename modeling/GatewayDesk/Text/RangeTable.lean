/-!
# Tables of code point ranges

A property of characters is given by its ranges in ascending order; `RangeTable.holds` looks a code
point up by halving.
-/

namespace GatewayDesk

namespace RangeTable

/-- Whether `n` lies in one of the ranges with index from `low` to below `high`. -/
def search (table : Array (Nat × Nat)) (n low high fuel : Nat) : Bool :=
  match fuel with
  | 0 => false
  | fuel + 1 =>
    if low < high then
      let mid := (low + high) / 2
      match table[mid]? with
      | none => false
      | some (first, last) =>
        if n < first then search table n low mid fuel
        else if last < n then search table n (mid + 1) high fuel
        else true
    else false

/-- Whether `n` lies in one of the ranges of a table in ascending order. -/
def holds (table : Array (Nat × Nat)) (n : Nat) : Bool :=
  search table n 0 table.size (table.size + 1)

/-- The value that a table in ascending order of ranges gives to `n`, if it lists `n`. -/
def lookup? {α : Type} (table : Array (Nat × Nat × α)) (n low high fuel : Nat) : Option α :=
  match fuel with
  | 0 => none
  | fuel + 1 =>
    if low < high then
      let mid := (low + high) / 2
      match table[mid]? with
      | none => none
      | some (first, last, value) =>
        if n < first then lookup? table n low mid fuel
        else if last < n then lookup? table n (mid + 1) high fuel
        else some value
    else none

/-- The value that a table in ascending order of ranges gives to `n`, if it lists `n`. -/
def get? {α : Type} (table : Array (Nat × Nat × α)) (n : Nat) : Option α :=
  lookup? table n 0 table.size (table.size + 1)

end RangeTable

end GatewayDesk
