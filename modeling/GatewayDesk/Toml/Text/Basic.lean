import GatewayDesk.Numeric.Digits

/-!
# Forms of texts

A text stands between double quotes, where a backslash escapes, or between single quotes, where
every character stands for itself. One quote at each end keeps it on one line, three allow line
breaks.
-/

namespace GatewayDesk

namespace Toml

/-- How a text is written. -/
structure Form where
  /-- Whether every character stands for itself. -/
  literal : Bool
  /-- Whether line breaks may stand in it. -/
  lines : Bool
  deriving DecidableEq, Repr

namespace Form

/-- Between double quotes. -/
def basic : Form := ⟨false, false⟩

/-- Between single quotes. -/
def verbatim : Form := ⟨true, false⟩

/-- Between three double quotes. -/
def basicLines : Form := ⟨false, true⟩

/-- Between three single quotes. -/
def verbatimLines : Form := ⟨true, true⟩

/-- The quote of a form. -/
def quote (form : Form) : Char := if form.literal then '\'' else '"'

/-- What stands at both ends. -/
def delimiter (form : Form) : List Char :=
  List.replicate (if form.lines then 3 else 1) form.quote

end Form

/-- Whether a character may stand in a text or a comment as it is; line breaks apart. -/
def isPlain (c : Char) : Bool := c == '\t' || (0x20 ≤ c.toNat && c.toNat != 0x7F)

/-- Whether a character may stand in a key without quotes. -/
def isBare (c : Char) : Bool :=
  ('a' ≤ c && c ≤ 'z') || ('A' ≤ c && c ≤ 'Z') || Digits.isDigit c || c == '-' || c == '_'

end Toml

end GatewayDesk
