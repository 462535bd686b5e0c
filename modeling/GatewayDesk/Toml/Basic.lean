import GatewayDesk.Mismatch
import GatewayDesk.Toml.Moment
import GatewayDesk.Toml.Numeral

/-!
# TOML values

A document is a table: keys with values, in the order in which they were defined. Whether more may
be put into a table depends on how it came to be, so a table keeps its origin.
-/

namespace GatewayDesk

namespace Toml

/-- How a table came to be. -/
inductive Origin where
  /-- Its own header. -/
  | header
  /-- The header of a table inside it. -/
  | implied
  /-- A dotted key. -/
  | dotted
  /-- Braces. -/
  | braces
  deriving DecidableEq, Repr

/-- A value. -/
inductive Value where
  | text (text : String)
  | integer (value : Integer)
  | real (value : Real)
  | boolean (value : Bool)
  | moment (value : Moment)
  | array (items : List Value)
  | table (origin : Origin) (members : List (String × Value))
  /-- An array of tables, each with its own header: those before the last, and the last. -/
  | tables (older : List (List (String × Value))) (newest : List (String × Value))

/-- The keys of a table with their values. -/
abbrev Members := List (String × Value)

/-- The kind of a floating-point number. -/
def Real.found : Real → Found
  | .finite x => .fraction x
  | .infinity true => .unbounded "-inf"
  | .infinity false => .unbounded "inf"
  | .notNumber => .unbounded "NaN"

/-- The kind of a value; a moment counts as a table of its own. -/
def Value.found : Value → Found
  | .text s => .string s
  | .integer z => .integer z.val
  | .real x => x.found
  | .boolean b => .boolean b
  | .moment _ => .map
  | .array _ => .sequence
  | .table _ _ => .map
  | .tables _ _ => .sequence

end Toml

end GatewayDesk
