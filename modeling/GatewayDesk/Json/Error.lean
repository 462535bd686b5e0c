import GatewayDesk.Mismatch
import GatewayDesk.Text.Position

/-!
# What can be wrong with a JSON text

A reader is told which shape to expect. `Json.Reason` lists what can go wrong, `Json.Reason.message`
words it, and `Json.Error` adds the position, which a value that is read without a text has not.
-/

namespace GatewayDesk

namespace Json

/-- What a reader expects: any value, an object, or an array of objects. -/
inductive Shape where
  | any
  | record
  | records
  deriving DecidableEq, Repr

/-- The expected shape in words. -/
def Shape.describe : Shape → String
  | .any => "any valid JSON value"
  | .record => "a map"
  | .records => "a sequence"

/-- Why a text is not the expected JSON. -/
inductive Reason where
  | endInList
  | endInObject
  | endInString
  | endInValue
  | noColon
  | noCommaInList
  | noCommaInObject
  | noWord
  | noValue
  | badEscape
  | badNumber
  | numberOutOfRange
  | badKey
  | control
  | trailingComma
  | trailingText
  | shortSurrogate
  | loneSurrogate
  | tooDeep
  | mismatch (found : Found) (wanted : Shape)
  deriving DecidableEq, Repr

/-- The reason in words. -/
def Reason.message : Reason → String
  | .endInList => "EOF while parsing a list"
  | .endInObject => "EOF while parsing an object"
  | .endInString => "EOF while parsing a string"
  | .endInValue => "EOF while parsing a value"
  | .noColon => "expected `:`"
  | .noCommaInList => "expected `,` or `]`"
  | .noCommaInObject => "expected `,` or `\x7d`"
  | .noWord => "expected ident"
  | .noValue => "expected value"
  | .badEscape => "invalid escape"
  | .badNumber => "invalid number"
  | .numberOutOfRange => "number out of range"
  | .badKey => "key must be a string"
  | .control => "control character (\\u0000-\\u001F) found while parsing a string"
  | .trailingComma => "trailing comma"
  | .trailingText => "trailing characters"
  | .shortSurrogate => "unexpected end of hex escape"
  | .loneSurrogate => "lone leading surrogate in hex escape"
  | .tooDeep => "recursion limit exceeded"
  | .mismatch found wanted => found.mismatch .json wanted.describe

/-- A reason and, for a value that was read from a text, where in the text it arose. -/
structure Error where
  reason : Reason
  position : Option Position
  deriving DecidableEq, Repr

/-- The sentence that reports the error. -/
def Error.message (e : Error) : String :=
  match e.position with
  | none => e.reason.message
  | some p => s!"{e.reason.message} at {p.describe}"

end Json

end GatewayDesk
