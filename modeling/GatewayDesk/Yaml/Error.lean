import GatewayDesk.Mismatch
import GatewayDesk.Yaml.Fault

/-!
# What can be wrong with a YAML value

A text may fail to be YAML, or be YAML of another shape than the reader wants. In the second case
the report gives the path from the root to the value, and its mark.
-/

namespace GatewayDesk

namespace Yaml

/-- One step from a collection to what it holds. -/
inductive Step where
  | key (text : String)
  | item (index : Nat)
  /-- The value of a key that has no text of its own. -/
  | unnamed
  deriving DecidableEq, Repr

/-- The steps from the root to a value, the last first. -/
abbrev Path := List Step

/-- A path in words. -/
def Path.describe : Path → String
  | [] => "."
  | .item i :: up => s!"{Path.describe up}[{i}]"
  | .key text :: up => if up.isEmpty then text else s!"{Path.describe up}.{text}"
  | .unnamed :: up => if up.isEmpty then "?" else s!"{Path.describe up}.?"

/-- Why a value does not have the shape that is wanted. -/
inductive Reason where
  | mismatch (found : Found) (wanted : String)
  /-- The text of a scalar is not what its tag says. -/
  | badText (text wanted : String)
  | numberOutOfRange
  /-- Two keys of a mapping are equal; the text says which. -/
  | repeatedKey (which : String)
  deriving DecidableEq, Repr

/-- The reason in words. -/
def Reason.message : Reason → String
  | .mismatch found wanted => found.mismatch .plain wanted
  | .badText text wanted => s!"invalid value: string {Text.quoted text}, expected {wanted}"
  | .numberOutOfRange => "JSON number out of range"
  | .repeatedKey which => s!"duplicate entry {which}"

/-- Why a text cannot be read. -/
inductive Error where
  | fault (fault : Fault)
  | shape (reason : Reason) (path : Path) (mark : Mark)
  | tooDeep (mark : Mark)
  | tooManyAliases
  | anotherDocument
  deriving DecidableEq, Repr

/-- A sentence and where it applies. -/
def located (text : String) (mark : Mark) : String :=
  if mark.isStart then text else s!"{text} at {mark.describe}"

/-- The sentence that reports the error. -/
def Error.message : Error → String
  | .fault f => f.message
  | .shape reason path mark =>
    let place := path.describe
    located (if place == "." then reason.message else s!"{place}: {reason.message}") mark
  | .tooDeep mark => located "recursion limit exceeded" mark
  | .tooManyAliases => "repetition limit exceeded"
  | .anotherDocument =>
    "deserializing from YAML containing more than one document is not supported"

end Yaml

end GatewayDesk
