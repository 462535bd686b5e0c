import GatewayDesk.Numeric.Shortest
import GatewayDesk.Text.Quoted

/-!
# Values of the wrong kind

A reader that wants one kind of value and finds another reports both. `Found` is what stood there,
`Wanted` what was wanted instead, and `Mismatch.message` the sentence. JSON words two of the kinds
in its own way, so the words are a parameter.
-/

namespace GatewayDesk

/-- The kind of a value that was found, with the value where the report shows it. -/
inductive Found where
  | null
  | boolean (value : Bool)
  | integer (value : Int)
  /-- An integer that 64 bits do not hold. -/
  | wide (value : Int)
  /-- A finite fraction. -/
  | fraction (value : Binary64)
  /-- A number that is no finite value, by its name. -/
  | unbounded (name : String)
  | string (value : String)
  | sequence
  | map
  | enumeration
  deriving DecidableEq, Repr

/-- How a format words the kinds that formats disagree about. -/
structure Found.Words where
  null : String
  fraction : Binary64 → String

/-- The words of JSON. -/
def Found.Words.json : Found.Words :=
  ⟨"null", fun x => String.ofList (FloatText.scientific x)⟩

/-- The words of the other formats. -/
def Found.Words.plain : Found.Words :=
  ⟨"unit value", fun x => String.ofList (FloatText.positional x)⟩

/-- The kind of a value in words. -/
def Found.describe (words : Found.Words) : Found → String
  | .null => words.null
  | .boolean true => "boolean `true`"
  | .boolean false => "boolean `false`"
  | .integer z => s!"integer `{String.ofList (Digits.decimal z)}`"
  | .wide z =>
    let width := if z < 0 then "i128" else "u128"
    s!"integer `{String.ofList (Digits.decimal z)}` as {width}"
  | .fraction x => s!"floating point `{words.fraction x}`"
  | .unbounded name => s!"floating point `{name}`"
  | .string text => s!"string {Text.quoted text}"
  | .sequence => "sequence"
  | .map => "map"
  | .enumeration => "enum"

/-- The report that a value of one kind stood where another was wanted. -/
def Found.mismatch (words : Found.Words) (found : Found) (wanted : String) : String :=
  s!"invalid type: {found.describe words}, expected {wanted}"

end GatewayDesk
