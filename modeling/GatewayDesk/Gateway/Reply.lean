import GatewayDesk.Device
import GatewayDesk.Text.Blank

/-!
# Replies of the gateway

A successful reply is a status and a body. The gateway decides what it sends back, so the body is a
text that is read as JSON only where someone asks.
-/

namespace GatewayDesk

/-- The reply to a request that succeeded. -/
structure Reply where
  status : Nat
  body : String
  deriving DecidableEq, Repr

namespace Reply

/-- Whether the body holds nothing but white space. -/
def isEmpty (reply : Reply) : Bool := Text.isBlank reply.body

/-- The body as a JSON value. -/
def json (reply : Reply) : Except Json.Error Json :=
  (Json.read .any reply.body).map Json.canonical

/-- The body as a list of devices. -/
def devices (reply : Reply) : Except Json.Error (List Device) :=
  Device.readList reply.body

/-- The body as it is told: indented if it is JSON, else as it is, and not at all if it is blank. -/
def display? (reply : Reply) : Option String :=
  if reply.isEmpty then none
  else
    match reply.json with
    | .ok value => some value.indented
    | .error _ => some reply.body

end Reply

end GatewayDesk
