import GatewayDesk.Config.Profile
import GatewayDesk.Terminal.Paint

/-!
# Configuration

A configuration holds profiles under their names and says which one is current. For one run, another
server may stand in for that of the current profile; it is not part of what is saved.

* `profile_mem`: the current profile is one of the profiles.
* `domain_setOverride`: a server that stands in is the one that is used.
-/

namespace GatewayDesk

/-- Profiles, and which one is current. -/
structure Config where
  current : String
  profiles : Profiles
  /-- The server that stands in for that of the current profile. -/
  override : Option String
  /-- Where the configuration is saved. -/
  path : String
  current_mem : (profiles.get? current).isSome

namespace Config

/-! ## Values -/

/-- The current profile. -/
def profile (config : Config) : Profile :=
  (config.profiles.get? config.current).get config.current_mem

theorem profile_mem (config : Config) :
    config.profiles.get? config.current = some config.profile := by
  simp [profile]

/-- The server in use. -/
def domain (config : Config) : String := config.override.getD config.profile.server

/-- The time after which a request is given up. -/
def timeout (config : Config) : Option Seconds := config.profile.timeout

/-- The name of the current profile and the server in use, in the colour of the profile. -/
def display (config : Config) (painting : Bool) : String :=
  let color := Color.ofName config.profile.color
  let name := Paint.apply painting (.boldColor color) config.current
  let server := Paint.apply painting (.color color) config.domain
  s!"{name} {server}"

/-! ## Changes -/

/-- The configuration of one who has none: the gateway of this machine. -/
def initial (path : String) : Config where
  current := "local"
  profiles := Profiles.empty.insert "local" ⟨"http://localhost:8080", Profile.defaultColor, none⟩
  override := none
  path := path
  current_mem := by simp [Profiles.get?_insert]

/-- The configuration with a server that stands in. -/
def setOverride (config : Config) (server : String) : Config :=
  { config with override := some server }

/-- The configuration with the server of the environment, unless that is missing or empty. -/
def setEnvironment (config : Config) (server : Option String) : Config :=
  match server with
  | none => config
  | some server => if server = "" then config else config.setOverride server

theorem domain_setOverride (config : Config) (server : String) :
    (config.setOverride server).domain = server := rfl

/-- The configuration with another current profile, if there is one of that name. -/
def select? (config : Config) (name : String) : Option Config :=
  if h : (config.profiles.get? name).isSome then
    some { config with current := name, current_mem := h }
  else none

end Config

end GatewayDesk
