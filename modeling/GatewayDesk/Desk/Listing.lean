import GatewayDesk.Desk.Basic
import GatewayDesk.Terminal.Table

/-!
# Listing devices

The devices of a gateway are shown as a table with a row for each, or as JSON on a single line. What
is no list of devices is shown as it is.
-/

namespace GatewayDesk

/-! ## Rows -/

namespace Device

/-- Stands where a device does not say something. -/
def blank : String := "-"

/-- Whether a device answers calls, in a colour. -/
def pingCell (painting : Bool) (device : Device) : String :=
  match device.enablePing with
  | some true => Paint.apply painting (.color .brightGreen) "yes"
  | some false => Paint.apply painting (.color .red) "no"
  | none => Paint.apply painting .dim blank

/-- The time between two readings of a device. -/
def intervalCell (device : Device) : String :=
  match device.interval with
  | some seconds => String.ofList (Digits.decimal seconds) ++ "s"
  | none => blank

/-- The row of a device. -/
def row (painting : Bool) (device : Device) : List String :=
  [device.id.getD blank, device.name.getD blank,
    (device.protocolName.or device.protocol).getD blank, device.intervalCell,
    device.pingCell painting]

/-- The table of some devices. -/
def table (painting : Bool) (devices : List Device) : Table :=
  ⟨["ID", "Name", "Protocol", "Interval", "Ping"], devices.map (row painting)⟩

/-- The text of some devices. -/
def listing (painting asJson : Bool) (devices : List Device) : String :=
  if asJson then (listToJson devices).compact ++ "\n"
  else if devices.isEmpty then "No devices found\n"
  else (table painting devices).render

end Device

/-! ## Replies -/

/-- The event of a reply that is no list of devices. -/
def Reply.oddList (error : Json.Error) : Log.Event :=
  ⟨.debug, "se::commands::devices", s!"device list is not JSON: {error.message}", []⟩

namespace Job

/-- Shows the devices of a gateway. -/
def list (client : Client) (painting asJson : Bool) : Job Unit := do
  let reply ← (call client .fetch).during s!"Failed to list devices from {client.domain}"
  match reply.devices with
  | .ok devices => say (Device.listing painting asJson devices)
  | .error e =>
    leave (.event (Reply.oddList e))
    if reply.isEmpty then return () else sayLine reply.body

end Job

end GatewayDesk
