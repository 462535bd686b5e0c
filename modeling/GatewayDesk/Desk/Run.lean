import GatewayDesk.CommandLine.Completion
import GatewayDesk.Desk.Listing
import GatewayDesk.Desk.Removal
import GatewayDesk.Desk.Saving

/-!
# Runs of the program

A run does what the words of its command line are meant to do. It ends with a code: 0 if all went
well, 1 if the command failed, and 2 if the words fit no command.
-/

namespace GatewayDesk

open CommandLine

namespace Job

/-! ## The configuration -/

/-- The path of the configuration of a user. -/
def configPath (home : String) : String := Path.under (Path.under home ".sensor-edge") "config.toml"

/-- The event of a configuration that is missing. -/
def noConfig (path : String) : Log.Event :=
  ⟨.debug, "sensor_edge::config", "no config file, using defaults", [("path", path)]⟩

/-- Loads the configuration of a path. -/
def loadConfig (path : String) : Job Config := do
  let files ← files
  if Config.isMissing files path then leave (.event (noConfig path))
  ofAttempt (Config.load files path)

/-- The configuration of a run: of the servers that stand in, that of the command line has its way
over that of the environment. -/
def config (environment : Environment) (server : Option String) : Job Config := do
  match environment.home? with
  | none => fail (.note "Could not locate the home directory")
  | some home =>
    let config ← loadConfig (configPath home)
    let config := config.setEnvironment environment.server
    match server with
    | some server => return config.setOverride server
    | none => return config

/-! ## Commands -/

/-- Shows the profiles. -/
def showProfiles (painting : Bool) (config : Config) : Job Unit := do
  let names := ", ".intercalate config.profiles.names
  sayLine s!"current: {config.display painting}"
  sayLine s!"available: {names}"

/-- Makes another profile the current one. -/
def selectProfile (painting : Bool) (config : Config) (name : String) : Job Unit := do
  sayLine s!"Changing profile to {name}"
  let (config, outcome) := config.changeProfile (← files) name
  change outcome
  sayLine s!"new: {config.display painting}"

/-- Does something with the devices of a gateway. -/
def devices (environment : Environment) (client : Client) : DeviceCommand → Job Unit
  | .list asJson => list client environment.wantsPaint asJson
  | .create source => create client environment.wantsPaint environment.input source
  | .importAll path => importAll client environment.wantsPaint path
  | .update id source => update client environment.wantsPaint environment.input id source
  | .remove ids unasked => remove client environment ids unasked

/-- Does what an order asks for. -/
def ofOrder (environment : Environment) (order : Order) : Job Unit :=
  match order.command with
  | .profile none => do showProfiles environment.wantsPaint (← config environment order.server)
  | .profile (some name) => do
    selectProfile environment.wantsPaint (← config environment order.server) name
  | .devices command => do
    let config ← config environment order.server
    devices environment (.ofConfig config) command
  | .completion shell => say (shell.script Form.program)

end Job

/-! ## Runs -/

namespace Desk

/-- What is told about a command line that fits no command. -/
def usageText (error : UsageError) : String :=
  s!"error: {error.message}\n\nFor more information, try '--help'.\n"

/-- Does what a command line is meant to do, and ends with a code. -/
def perform (environment : Environment) (desk : Desk) : Intent → Nat × Desk
  | .tell text => (0, desk.note (.out text))
  | .refuse error => (2, desk.note (.err (usageText error)))
  | .run order =>
    match Job.ofOrder environment order desk with
    | (.ok (), desk) => (0, desk)
    | (.error failure, desk) => (1, desk.note (.err failure.report))

/-- Runs the program with the words of a command line. -/
def run (environment : Environment) (desk : Desk) (words : List String) : Nat × Desk :=
  desk.perform environment (.ofWords words)

end Desk

end GatewayDesk
