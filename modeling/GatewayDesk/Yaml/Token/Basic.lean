import GatewayDesk.Text.Utf8
import GatewayDesk.Yaml.Fault

/-!
# Tokens

The signs that a YAML text is made of. The tokens that open and close a block collection have no
character of their own: they stand where the indentation changes.
-/

namespace GatewayDesk

namespace Yaml

/-- The bytes of an address, such as a tag. They may be no text, because an address may spell any
byte. -/
abbrev Address := List UInt8

/-- How a scalar is written. -/
inductive Style where
  | plain
  | quoted
  | block
  deriving DecidableEq, Repr

/-- What a token is. -/
inductive Sign where
  | streamEnd
  | version (major minor : Nat)
  | handle (name : String) (address : Address)
  | documentStart
  | documentEnd
  | blockSequence
  | blockMapping
  | blockEnd
  | flowSequence
  | flowSequenceEnd
  | flowMapping
  | flowMappingEnd
  | entry
  | comma
  | key
  | value
  | alias (name : String)
  | anchor (name : String)
  | tag (handle : String) (rest : Address)
  | scalar (text : String) (style : Style)
  deriving DecidableEq, Repr

/-- A sign and where it starts. -/
structure Token where
  sign : Sign
  mark : Mark
  deriving DecidableEq, Repr

end Yaml

end GatewayDesk
