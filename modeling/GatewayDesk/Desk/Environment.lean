import GatewayDesk.Files.Error
import GatewayDesk.Log.Directive
import GatewayDesk.Terminal.Keyboard

/-!
# What surrounds a run

The variables of the environment, and what stands on standard input. Some variables are settings:
which server is called, whether text is painted, which events are told.
-/

namespace GatewayDesk

/-- What surrounds a run. -/
structure Environment where
  /-- The values of the variables. -/
  values : List (String × String)
  /-- What stands on standard input, or is typed there. -/
  input : ByteArray
  inputIsTerminal : Bool
  outputIsTerminal : Bool

namespace Environment

/-- The surroundings of someone who types at a terminal. -/
def typing (values : List (String × String)) (keys : ByteArray) (outputIsTerminal : Bool) :
    Environment :=
  ⟨values, ⟨(Keyboard.read keys.toList).toArray⟩, true, outputIsTerminal⟩

/-- The value of a variable. -/
def get? (environment : Environment) (name : String) : Option String :=
  environment.values.lookup name

/-! ## Settings -/

/-- The directory of the user, which the variable names. Who has no name for it has none here, also
where the system keeps one among its accounts. -/
def home? (environment : Environment) : Option String :=
  (environment.get? "HOME").filter (· != "")

/-- The server that stands in for that of the profile. -/
def server (environment : Environment) : Option String := environment.get? "SENSOR_EDGE_SERVER"

/-- Which events are told. -/
def filter (environment : Environment) : Log.Filter := .ofSetting (environment.get? "RUST_LOG")

/-- What a switch among the variables says: all but a zero switch it on. -/
def switch? (environment : Environment) (name : String) : Option Bool :=
  (environment.get? name).map (· != "0")

/-- Whether text is painted: always where that is forced, never where it is unwanted, else on
terminals. -/
def wantsPaint (environment : Environment) : Bool :=
  if environment.switch? "CLICOLOR_FORCE" = some true then true
  else if (environment.get? "NO_COLOR").isSome then false
  else environment.outputIsTerminal && (environment.switch? "CLICOLOR").getD true

/-- Whether lines about events are painted. -/
def wantsPaintedEvents (environment : Environment) : Bool :=
  (environment.get? "NO_COLOR").all (· == "")

/-! ## Standard input -/

/-- The first line on standard input, with its end. -/
def firstLine (environment : Environment) : Except FileError String :=
  let bytes := environment.input.toList
  let line := bytes.takeWhile (· != 10) ++ (bytes.dropWhile (· != 10)).take 1
  match String.fromUTF8? ⟨line.toArray⟩ with
  | some text => .ok text
  | none => .error .notText

end Environment

end GatewayDesk
