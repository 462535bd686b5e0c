import GatewayDesk.Proofs.Config.Override
import GatewayDesk.Proofs.Desk.Outcome
import GatewayDesk.Proofs.Gateway.Origin

/-!
# The server of a run

A run with devices calls one server: that of the command line, even an empty one, or else that of
the environment unless it is empty, or else that of the current profile. The slashes at its end are
left out.

* `Client.IsBase`: a server without the slashes at its end.
* `Job.ofConfig_eq`: the client of a run.
* `server_in_use`: the server of a run, and that of a configuration after any steps.
-/

namespace GatewayDesk

/-- Whether a text is a server without the slashes at its end. -/
structure Client.IsBase (server base : String) : Prop where
  slashes : ∃ n, server.toList = base.toList ++ List.replicate n '/'
  bare : base.toList.getLast? ≠ some '/'

theorem Client.isBase_ofServer (server : String) (timeout : Option Seconds) :
    IsBase server (ofServer server timeout).domain := by
  refine ⟨server_eq server timeout, ?_⟩
  rw [ofServer, String.toList_ofList, List.getLast?_reverse]
  intro slash
  have kept := List.head?_dropWhile_not (· == '/') server.toList.reverse
  rw [slash] at kept
  cases kept

/-- The environment gives a server unless it is missing or empty, and leaves the timeout. -/
theorem Config.setEnvironment_uses (config : Config) (server : Option String) :
    (config.setEnvironment server).domain = (server.filter (· ≠ "")).getD config.domain ∧
      (config.setEnvironment server).timeout = config.timeout := by
  cases server with
  | none => exact ⟨rfl, rfl⟩
  | some server =>
    rw [setEnvironment]
    split
    case isTrue empty => exact ⟨by simp [Option.filter, empty], rfl⟩
    case isFalse given => exact ⟨by simp [Option.filter, given, domain_setOverride], rfl⟩

namespace Job

variable {environment : Environment} {files : FileTree}

/-- The client of a run calls the server of the command line, or else that of the environment, or
else that of the current profile. -/
theorem ofConfig_eq {server : Option String} {config loaded : Config} {home : String}
    (configures : Configures environment files server config) (user : environment.home? = some home)
    (load : Config.load files (configPath home) = .ok loaded) :
    Client.ofConfig config = .ofServer
      (server.getD ((environment.server.filter (· ≠ "")).getD loaded.profile.server))
      loaded.timeout := by
  obtain rfl := configures.unique ⟨home, loaded, user, load, rfl⟩
  obtain ⟨domain, timeout⟩ := loaded.setEnvironment_uses environment.server
  have own : loaded.domain = loaded.profile.server := by
    rw [Config.domain, Config.override_load load]
    rfl
  rw [← own, ← domain, ← timeout]
  cases server <;> rfl

end Job

namespace Desk

/-- The requests of a run with devices are those of calls to the server of its configuration. -/
theorem requests_devices {words : List String} {server : Option String}
    {command : CommandLine.DeviceCommand}
    (h : CommandLine.Intent.ofWords words = .run ⟨server, .devices command⟩)
    {environment : Environment} {files : FileTree} {config : Config}
    (configures : Job.Configures environment files server config) (answers : List Answer)
    (notes : List Note) :
    ∃ made, made <+: command.calls environment files ∧
      (run environment ⟨files, .scripted answers, notes⟩ words).2.gateway.requests =
        (Client.ofConfig config).requestsOf made := by
  have same := (perform_run environment ⟨files, .scripted answers, notes⟩
    ⟨server, .devices command⟩).1
  rw [run, h, same]
  rcases ofOrder_devices environment server command ⟨files, .scripted answers, notes⟩ with
    ⟨-, -, untouched⟩ | ⟨-, config', configures', follows⟩
  · exact ⟨[], List.nil_prefix, congrArg Gateway.requests untouched⟩
  · obtain rfl := configures.unique configures'
    obtain ⟨made, part, requests, -⟩ := follows.scripted
    exact ⟨made, part, requests⟩

end Desk

/-- Which server is in use. All requests of a run with devices go to one: that of the command line
if there is one, even an empty one, or else that of the environment unless it is missing or empty,
or else that of the current profile; without slashes at its end. After any steps since a load, the
server in use is the last that was given, and that of the current profile if none was. -/
theorem server_in_use :
    (∀ (words : List String) (server : Option String) (command : CommandLine.DeviceCommand),
      CommandLine.Intent.ofWords words = .run ⟨server, .devices command⟩ →
      ∀ (environment : Environment) (files : FileTree) (answers : List Answer) (notes : List Note)
        (home : String) (loaded : Config), environment.home? = some home →
        Config.load files (Job.configPath home) = .ok loaded →
        ∃ base made,
          Client.IsBase
            (server.getD ((environment.server.filter (· ≠ "")).getD loaded.profile.server)) base ∧
          made <+: command.calls environment files ∧
          (Desk.run environment ⟨files, .scripted answers, notes⟩ words).2.gateway.requests =
            (⟨base, loaded.timeout⟩ : Client).requestsOf made) ∧
    ∀ (session : Config.Session) (path : String) (loaded : Config)
      (steps : List Config.Session.Step), Config.load session.files path = .ok loaded →
      (∀ path, .load path ∉ steps) →
      ∃ later profile, (session.run (.load path :: steps)).config = some later ∧
        later.profiles.get? later.current = some profile ∧
        later.domain =
          (steps.filterMap Config.Session.Step.server?).getLast?.getD profile.server := by
  refine ⟨?_, fun _ _ _ _ load unloaded => Config.Session.domain_run load unloaded⟩
  intro words server command h environment files answers notes home loaded user load
  have configures : Job.Configures environment files server _ := ⟨home, loaded, user, load, rfl⟩
  obtain ⟨made, part, requests⟩ := Desk.requests_devices h configures answers notes
  refine ⟨_, made, Client.isBase_ofServer _ loaded.timeout, part, ?_⟩
  rw [requests, Job.ofConfig_eq configures user load]
  rfl

/-- The command line has its way over the environment, and an empty variable takes nothing away. -/
theorem server_in_use_lab :
    (∃ base made, Client.IsBase "http://lab//" base ∧ made <+: [.fetch] ∧
      (Desk.run ⟨[("HOME", "/root"), ("SENSOR_EDGE_SERVER", "http://gw")], .empty, false, false⟩
          ⟨⟨[], []⟩, .scripted [], []⟩
          ["devices", "ls", "--server", "http://lab//"]).2.gateway.requests =
        (⟨base, none⟩ : Client).requestsOf made) ∧
    ∃ later, (Config.Session.run ⟨⟨[], []⟩, none⟩
        [.load "desk.toml", .override "http://gw", .environment (some "")]).config = some later ∧
      later.domain = "http://gw" := by
  have order : CommandLine.Intent.ofWords ["devices", "ls", "--server", "http://lab//"] =
      .run ⟨some "http://lab//", .devices (.list false)⟩ := by decide +kernel
  refine ⟨server_in_use.1 _ _ _ order _ _ [] [] "/root" (.initial _) (by decide +kernel) rfl, ?_⟩
  obtain ⟨later, _, held, -, domain⟩ := server_in_use.2 ⟨⟨[], []⟩, none⟩ "desk.toml" _
    [.override "http://gw", .environment (some "")] rfl (by simp)
  exact ⟨later, held, domain⟩

end GatewayDesk
