/-!
# Positions

A place in a text as people count it: the line from one and the column in bytes, so that column zero
is the place right after a line break.
-/

namespace GatewayDesk

/-- A line and a column. -/
structure Position where
  line : Nat
  column : Nat
  deriving DecidableEq, Repr

namespace Position

/-- The position after the next `offset` bytes of a text. -/
def advance (here : Position) : List Char → Nat → Position
  | [], _ => here
  | _ :: _, 0 => here
  | c :: cs, offset =>
    if c == '\n' then advance ⟨here.line + 1, 0⟩ cs (offset - 1)
    else advance ⟨here.line, here.column + min offset c.utf8Size⟩ cs (offset - c.utf8Size)

/-- The position after the first `offset` bytes of a text. -/
def ofOffset (text : List Char) (offset : Nat) : Position :=
  advance ⟨1, 0⟩ text offset

/-- The position in words. -/
def describe (here : Position) : String :=
  s!"line {here.line} column {here.column}"

end Position

end GatewayDesk
