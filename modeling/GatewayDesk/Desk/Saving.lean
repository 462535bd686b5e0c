import GatewayDesk.Desk.Basic
import GatewayDesk.DeviceFile
import GatewayDesk.Terminal.Paint

/-!
# Creating and replacing devices

A device is read from a file or from standard input, and all devices of a list from a file; only
then is the gateway called. The devices of a list are created in order, up to the first that fails.
-/

namespace GatewayDesk

/-- What a device is called in a list, after some others: its id, or else its name, or else its
place. -/
def Device.label (device : Device) (others : Nat) : String :=
  (device.id.or device.name).getD s!"#{others + 1}"

namespace Job

/-- A text that says that all is well. -/
def glad (painting : Bool) (text : String) : String :=
  Paint.apply painting (.color .brightGreen) text

/-- Says what a reply holds. -/
def sayReply (reply : Reply) : Job Unit :=
  match reply.display? with
  | some text => sayLine text
  | none => pure ()

/-- The device that a file or standard input holds. -/
def readDevice (input : ByteArray) (source : String) : Job Device := do
  let files ← files
  ofAttempt (DeviceFile.read files input source)

/-- The devices that a file holds. -/
def readDevices (path : String) : Job (List Device) := do
  let files ← files
  ofAttempt (DeviceFile.readList files path)

/-! ## One device -/

/-- Creates a device. -/
def create (client : Client) (painting : Bool) (input : ByteArray) (source : String) :
    Job Unit := do
  let device ← readDevice input source
  let reply ← (call client (.create device)).during "Failed to create device"
  sayLine (glad painting "Device created")
  sayReply reply

/-- Replaces a device. -/
def update (client : Client) (painting : Bool) (input : ByteArray) (id source : String) :
    Job Unit := do
  let device ← readDevice input source
  let reply ← (call client (.update id device)).during s!"Failed to update device '{id}'"
  sayLine (glad painting "Device updated:" ++ " " ++ Paint.apply painting .bold id)
  sayReply reply

/-! ## All devices of a list -/

/-- Creates the devices that are left of a list, of which some have been created, and counts all. -/
def importFrom (client : Client) (painting : Bool) (total : Nat) (done : Nat) :
    List Device → Job Nat
  | [] => pure done
  | device :: rest => do
    let label := device.label done
    let _ ← (call client (.create device)).during
      s!"Failed to import device '{label}' ({done} of {total} imported)"
    let plus := glad painting "+"
    sayLine s!"  {plus} {label}"
    importFrom client painting total (done + 1) rest

/-- Creates all devices of a file. -/
def importAll (client : Client) (painting : Bool) (path : String) : Job Unit := do
  let devices ← readDevices path
  let count ← importFrom client painting devices.length 0 devices
  sayLine (glad painting s!"Imported {count} device(s)")

end Job

end GatewayDesk
