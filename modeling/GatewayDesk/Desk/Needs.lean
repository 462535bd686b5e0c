import GatewayDesk.CommandLine.Command
import GatewayDesk.DeviceFile
import GatewayDesk.Desk.Basic

/-!
# What a run needs

Before a run, it is known from its command line which files it looks at, and whether it reads all of
standard input, or a line that answers a question, or nothing.
-/

namespace GatewayDesk

namespace CommandLine

/-- What is read from standard input. -/
inductive InputNeed where
  | nothing
  /-- All that stands there. -/
  | all
  /-- A line that answers a question. -/
  | answer
  deriving DecidableEq, Repr

/-- The source of the devices that a command sends. -/
def DeviceCommand.source? : DeviceCommand → Option String
  | .create source => some source
  | .update _ source => some source
  | .importAll _ => none
  | .list _ => none
  | .remove _ _ => none

/-- What a command reads from standard input. -/
def DeviceCommand.inputNeed (command : DeviceCommand) : InputNeed :=
  match command with
  | .remove _ false => .answer
  | _ => if command.source? = some DeviceFile.standardInput then .all else .nothing

/-- The paths of the files that a command reads. -/
def DeviceCommand.paths (command : DeviceCommand) : List String :=
  match command with
  | .importAll path => [path]
  | _ => (command.source?.filter (· != DeviceFile.standardInput)).toList

namespace Intent

/-- What a run reads from standard input. -/
def inputNeed : Intent → InputNeed
  | .run ⟨_, .devices command⟩ => command.inputNeed
  | _ => .nothing

/-- The paths of the files that a run reads, apart from the configuration. -/
def paths : Intent → List String
  | .run ⟨_, .devices command⟩ => command.paths
  | _ => []

end Intent

end CommandLine

/-- The notes that two runs have in common, from the first note on. -/
def Note.shared : List Note → List Note → List Note
  | a :: as, b :: bs => if a = b then a :: shared as bs else []
  | _, _ => []

end GatewayDesk
