import GatewayDesk.Json.Printer
import GatewayDesk.Json.Reader

/-!
# Device records

A device is a JSON object in canonical form: the gateway owns its shape, so every member is kept as
it came. The accessors read the fields that the gateway is known to use; a field that is missing or
of another kind reads as none.

`get?_set` says what a member holds after it is set.
-/

namespace GatewayDesk

/-- A device record. -/
structure Device where
  members : Json.Members
  canonical : (Json.object members).Canonical

namespace Device

/-- The record without members. -/
def empty : Device := ⟨[], .nil, trivial⟩

/-- The record as a JSON value. -/
def toJson (device : Device) : Json := .object device.members

/-- The record with these members; of two with one key the last counts. -/
def ofMembers (members : Json.Members) : Device :=
  ⟨Json.canonicalMembers members, Json.canonicalMembers_canonical members⟩

/-- An object as a record. -/
def ofJson (value : Json) : Except Json.Error Device :=
  match value with
  | .object members => .ok (ofMembers members)
  | other => .error ⟨.mismatch other.found .record, none⟩

/-- The value of a member. -/
def get? (device : Device) (key : String) : Option Json :=
  Ordered.get? device.members key

/-- The record with one member set. -/
def set (device : Device) (key : String) (value : Json) : Device :=
  ⟨Ordered.insert key value.canonical device.members,
    device.canonical.1.insert key _,
    Json.CanonicalMembers.insert device.canonical.2 (Json.canonical_canonical value) key⟩

theorem get?_set (device : Device) (key k : String) (value : Json) :
    (device.set key value).get? k =
      if key = k then some value.canonical else device.get? k :=
  Ordered.get?_insert key k _ _

/-- Equality of records. -/
def same (a b : Device) : Bool := a.toJson.same b.toJson

/-- The record on one line. -/
def compact (device : Device) : String := device.toJson.compact

/-! ## Fields -/

/-- The identifier as it stands in an item's address: a text as it is, a number as it is written. -/
def id (device : Device) : Option String :=
  match device.get? "id" with
  | some (.string s) => some s
  | some (.number n) => some (String.ofList n.text)
  | _ => none

/-- A field that holds a text. -/
def text? (device : Device) (key : String) : Option String :=
  (device.get? key).bind Json.string?

/-- The name. -/
def name (device : Device) : Option String := device.text? "name"

/-- The description. -/
def description (device : Device) : Option String := device.text? "description"

/-- The key of the protocol. -/
def protocol (device : Device) : Option String := device.text? "protocol"

/-- The name of the protocol. -/
def protocolName (device : Device) : Option String := device.text? "protocol_name"

/-- The polling interval in seconds. -/
def interval (device : Device) : Option Int := (device.get? "interval").bind Json.integer?

/-- Whether the device is pinged. -/
def enablePing (device : Device) : Option Bool := (device.get? "enable_ping").bind Json.boolean?

/-- The settings of the protocol. -/
def config (device : Device) : Option Json.Members :=
  match device.get? "config" with
  | some (.object members) => some members
  | _ => none

/-! ## Reading -/

/-- Reads a JSON text as one record. -/
def read (text : String) : Except Json.Error Device := do
  let value ← Json.read .record text
  ofJson value

/-- The records among values that are objects. -/
def ofItems : List Json → Except Json.Error (List Device)
  | [] => .ok []
  | item :: rest => do
    let device ← ofJson item
    let devices ← ofItems rest
    return device :: devices

/-- An array of objects as records. -/
def listOfJson (value : Json) : Except Json.Error (List Device) :=
  match value with
  | .array items => ofItems items
  | other => .error ⟨.mismatch other.found .records, none⟩

/-- Reads a JSON text as a list of records. -/
def readList (text : String) : Except Json.Error (List Device) := do
  let value ← Json.read .records text
  listOfJson value

/-- Several records as one JSON value. -/
def listToJson (devices : List Device) : Json := .array (devices.map toJson)

end Device

end GatewayDesk
