import GatewayDesk.Terminal.Escape
import GatewayDesk.Text.Blank
import GatewayDesk.Text.Width.Basic

/-!
# Tables

A table is a row of headers and rows of cells. Every column is as wide as its widest cell, where
escape sequences in cells take no room, and three blanks part the columns. Cells beyond the last
header are left out, and no line ends in white space.

A text can be padded up to a limit, so a column can be too wide: then there is no table, and who
asks for its text stops there. `Table.Fits` says of which tables `Table.render` is the text.
-/

namespace GatewayDesk

/-- Headers, and rows of cells that stand below them. -/
structure Table where
  headers : List String
  rows : List (List String)
  deriving DecidableEq, Repr

namespace Table

/-! ## Widths -/

/-- The width of a cell as it is seen. -/
def visibleWidth (cell : String) : Nat := Text.width (Escape.strip cell.toList)

/-- The widths of the columns, with a row of cells that has to fit in. -/
def widen (widths : List Nat) (row : List String) : List Nat :=
  match widths, row with
  | w :: widths, cell :: row => max w (visibleWidth cell) :: widen widths row
  | widths, _ => widths

/-- The widths of the columns. -/
def widths (table : Table) : List Nat :=
  table.rows.foldl widen (table.headers.map fun header => Text.width header.toList)

theorem length_widen (widths : List Nat) (row : List String) :
    (widen widths row).length = widths.length := by
  fun_induction widen widths row with
  | case1 w widths cell row ih => simp [ih]
  | case2 => rfl

theorem length_widths (table : Table) : table.widths.length = table.headers.length := by
  have keep (rows : List (List String)) (ws : List Nat) :
      (rows.foldl widen ws).length = ws.length := by
    induction rows generalizing ws with
    | nil => rfl
    | cons row rows ih => rw [List.foldl_cons, ih, length_widen]
  rw [widths, keep, List.length_map]

/-- The width up to which a text can be padded. -/
def widest : Nat := 65535

/-- Whether a table can be laid out: no column is too wide for its header to be padded. Cells are
padded by no more than that. -/
def Fits (table : Table) : Prop := ∀ width ∈ table.widths, width ≤ widest

instance (table : Table) : Decidable table.Fits := List.decidableBAll _ _

/-! ## Lines -/

/-- A header with blanks up to the width of its column; a header is padded by its characters. -/
def padHeader (width : Nat) (header : String) : List Char :=
  header.toList ++ List.replicate (width - header.length) ' '

/-- A cell with blanks up to the width of its column. -/
def padCell (width : Nat) (cell : String) : List Char :=
  cell.toList ++ List.replicate (width - visibleWidth cell) ' '

/-- Padded cells next to each other. -/
def join : List (List Char) → List Char
  | [] => []
  | [cell] => cell
  | cell :: cells => cell ++ ' ' :: ' ' :: ' ' :: join cells

/-- A line of padded cells. -/
def line (cells : List (List Char)) : List Char := Text.trimEnd (join cells) ++ ['\n']

/-- The text of a table that fits. -/
def render (table : Table) : String :=
  String.ofList <|
    line (List.zipWith padHeader table.widths table.headers) ++
      table.rows.flatMap fun row => line (List.zipWith padCell table.widths row)

end Table

end GatewayDesk
