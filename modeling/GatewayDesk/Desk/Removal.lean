import GatewayDesk.Desk.Basic
import GatewayDesk.Desk.Environment
import GatewayDesk.Terminal.Paint

/-!
# Removing devices

Devices are removed one after the other, whatever becomes of the others. Unless it is told not to
ask, the program asks first, which takes someone at a terminal; anything but the letter Y is a no.
-/

namespace GatewayDesk

namespace Job

/-! ## The question -/

/-- Whether an answer is a yes. -/
def isYes (line : String) : Bool :=
  (Text.trim line.toList).map Text.small == ['y']

/-- Asks whether to go on. -/
def ask (environment : Environment) : Job Bool := do
  if environment.inputIsTerminal then
    let question := Paint.apply environment.wantsPaint .bold "Proceed?"
    say s!"\n{question} [y/N]: "
    let line ← ofAttempt (Attempt.ofFile environment.firstLine)
    return isYes line
  else
    fail (.note
      "error: cannot prompt for confirmation without a terminal.\nUse -y/--yes to proceed.")

/-! ## Removals -/

/-- Says what became of the removal of a device, and counts the failures. -/
def sayRemoval (painting : Bool) (id : String) (failures : Nat) : Attempt Reply → Job Nat
  | .ok _ => do
    let removed := Paint.apply painting (.color .brightGreen) "Removed"
    sayLine s!"{removed} {id}"
    return failures
  | .error failure => do
    let failed := Paint.apply painting (.color .red) "Failed to remove"
    complain s!"{failed} {id}: {failure.message}"
    return failures + 1

/-- Removes devices, and counts the failures after some others. -/
def removeEach (client : Client) (painting : Bool) (failures : Nat) : List String → Job Nat
  | [] => pure failures
  | id :: rest => do
    let result ← (call client (.delete id)).attempt
    let failures ← sayRemoval painting id failures result
    removeEach client painting failures rest

/-- Removes all devices of a list. -/
def removeAll (client : Client) (painting : Bool) (ids : List String) : Job Unit := do
  let failures ← removeEach client painting 0 ids
  if failures = 0 then return ()
  else fail (.note s!"{failures} of {ids.length} device(s) could not be removed")

/-- Removes devices, unless someone who is asked says no. -/
def remove (client : Client) (environment : Environment) (ids : List String) (unasked : Bool) :
    Job Unit := do
  let lines := String.join (ids.map fun id => s!"  - {id}\n")
  say s!"Removing {ids.length} device(s):\n{lines}"
  let goesOn ← if unasked then pure true else ask environment
  if goesOn then removeAll client environment.wantsPaint ids else sayLine "Cancelled."

end Job

end GatewayDesk
