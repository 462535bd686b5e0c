import GatewayDesk.Proofs.Config.Failure
import GatewayDesk.Proofs.Desk.Files
import GatewayDesk.Proofs.Desk.Server
import GatewayDesk.Proofs.Files.Under

/-!
# Runs and the stored configuration

Only a run that makes another profile current writes files, and it leaves what was stored unless it
ends with code 0. If it does, the runs after it call the server of that profile.

* `selectProfile_apply`, `ofOrder_profile`: what a change of the profile does to the files.
* `load_of_changeProfile`: what is loaded after a change of the profile.
* `requests_list_stored`: what is sent to list devices, where no other server is given.
* `run_profile`: what runs do to the stored configuration, and the run after a change.
-/

namespace GatewayDesk

namespace Job

/-! ## Changes of the profile -/

variable {environment : Environment} {desk : Desk}

/-- To make a profile current is to change the configuration, with something said before and after
it. -/
theorem selectProfile_apply (painting : Bool) (config : Config) (name : String) (desk : Desk) :
    (selectProfile painting config name desk).2.files =
        (config.changeProfile desk.files name).2.files ∧
      (selectProfile painting config name desk).1 =
        (config.changeProfile desk.files name).2.result := by
  have steps : selectProfile painting config name desk =
      (change (config.changeProfile desk.files name).2 >>= fun _ =>
        sayLine s!"new: {(config.changeProfile desk.files name).1.display painting}")
        (desk.note (.out (s!"Changing profile to {name}" ++ "\n"))) := rfl
  rw [steps, bind_apply, change]
  rcases config.changeProfile desk.files name with ⟨changed, files, failure | ⟨⟨⟩⟩⟩
  · exact ⟨rfl, rfl⟩
  · exact ⟨rfl, rfl⟩

/-- A run that makes a profile current changes the profile of its configuration; without one it
fails. -/
theorem ofOrder_profile (environment : Environment) (server : Option String) (name : String)
    (desk : Desk) :
    (∃ failure, (ofOrder environment ⟨server, .profile (some name)⟩ desk).1 = .error failure) ∧
        (ofOrder environment ⟨server, .profile (some name)⟩ desk).2.files = desk.files ∨
      ∃ config, Configures environment desk.files server config ∧
        (ofOrder environment ⟨server, .profile (some name)⟩ desk).2.files =
          (config.changeProfile desk.files name).2.files ∧
        (ofOrder environment ⟨server, .profile (some name)⟩ desk).1 =
          (config.changeProfile desk.files name).2.result := by
  obtain ⟨hf, -, loads⟩ := config_apply environment server desk
  have order : ofOrder environment ⟨server, .profile (some name)⟩ =
      config environment server >>= fun config =>
        selectProfile environment.wantsPaint config name := rfl
  rw [order, bind_apply]
  rcases hc : config environment server desk with ⟨failure | config, after⟩ <;> rw [hc] at hf loads
  · exact .inl ⟨⟨failure, rfl⟩, hf⟩
  · obtain ⟨files, result⟩ := selectProfile_apply environment.wantsPaint config name after
    rw [show after.files = desk.files from hf] at files result
    exact .inr ⟨config, (loads config).1 rfl, files, result⟩

/-! ## Lists -/

/-- To list devices is one call. -/
theorem gateway_list (client : Client) (painting asJson : Bool) (desk : Desk) :
    (list client painting asJson desk).2.gateway = (client.send desk.gateway .fetch).gateway := by
  rw [list, bind_apply, during_call_apply]
  cases (client.send desk.gateway .fetch).result with
  | error e => exact gateway_call client .fetch desk
  | ok reply =>
    rw [← gateway_call client .fetch desk]
    have said {job : Job Unit} (h : IsQuiet job) := (h (call client .fetch desk).2).2
    refine said ?_
    split
    · exact isQuiet_leave _
    · refine (isQuiet_leave _).bind fun _ => ?_
      split
      · exact isQuiet_pure ()
      · exact isQuiet_sayLine _

end Job

/-! ## The stored configuration -/

namespace Config

variable {config : Config} {files : FileTree} {path name : String}

theorem path_load (h : load files path = .ok config) : config.path = path := by
  rcases load_eq_ok.1 h with ⟨-, rfl⟩ | ⟨_, -, -, -, own⟩
  · rfl
  · exact own

/-- A save that is done leaves the text of the configuration at its path. -/
theorem readBytes_save (h : (config.save files).result = .ok ()) :
    ∃ text, config.text = .ok text ∧
      (config.save files).files.readBytes config.path = .ok text.toUTF8 := by
  obtain ⟨made, text, written, ht, hw, hr⟩ := save_eq_ok h
  obtain ⟨front, name, other, target, source, apart⟩ := leads_sibling hr
  exact ⟨text, ht, (FileTree.readBytes_replace source target apart hw hr).1⟩

/-- After a change of the profile that is saved, the configuration is loaded with the named profile
as the current one, wherever its path stands for what was saved. -/
theorem load_of_changeProfile (writable : config.IsWritable)
    (done : (config.changeProfile files name).2.result = .ok ()) :
    ∃ profile, config.profiles.get? name = some profile ∧ ∀ after : FileTree,
      after.readBytes config.path =
        (config.changeProfile files name).2.files.readBytes config.path →
      ∃ later, load after config.path = .ok later ∧ later.current = name ∧
        later.profile = profile := by
  rcases changeProfile_eq config files name with ⟨-, unknown⟩ | ⟨known, changed⟩
  · rw [unknown] at done
    cases done
  · rw [changed] at done ⊢
    obtain ⟨text, ht, stored⟩ := readBytes_save done
    refine ⟨_, profile_mem { config with current := name, current_mem := known },
      fun after same => ?_⟩
    have loads := @load_of_readBytes { config with current := name, current_mem := known } after
      config.path text writable ht (same.trans stored)
    exact ⟨_, loads, rfl, rfl⟩

end Config

/-- The configuration of a run has the profiles and the path of the one that is stored. -/
theorem Job.Configures.stored {environment : Environment} {files : FileTree}
    {server : Option String} {config : Config} (h : Configures environment files server config) :
    ∃ home before, environment.home? = some home ∧
      Config.load files (configPath home) = .ok before ∧ config.profiles = before.profiles ∧
      config.path = configPath home := by
  obtain ⟨home, before, user, load, rfl⟩ := h
  obtain ⟨profiles, path⟩ := Config.Session.setEnvironment_keeps before environment.server
  rw [Config.path_load load] at path
  refine ⟨home, before, user, load, ?_, ?_⟩
  · cases server <;> exact profiles
  · cases server <;> exact path

namespace Desk

variable {environment : Environment} {desk : Desk} {words : List String}

/-! ## Runs -/

/-- To list devices, one call is made. -/
theorem requests_list {server : Option String} {asJson : Bool}
    (h : CommandLine.Intent.ofWords words = .run ⟨server, .devices (.list asJson)⟩)
    {files : FileTree} {config : Config}
    (configures : Job.Configures environment files server config) (answers : List Answer)
    (notes : List Note) :
    (run environment ⟨files, .scripted answers, notes⟩ words).2.gateway.requests =
      (Client.ofConfig config).requestsOf [.fetch] := by
  obtain ⟨-, hg, loads⟩ := Job.config_apply environment server ⟨files, .scripted answers, notes⟩
  have order : Job.ofOrder environment ⟨server, .devices (.list asJson)⟩ =
      Job.config environment server >>= fun config =>
        Job.list (.ofConfig config) environment.wantsPaint asJson := rfl
  rw [run, h, (perform_run environment _ _).1, order, Job.bind_apply]
  rcases hc : Job.config environment server ⟨files, .scripted answers, notes⟩ with
    ⟨result, after⟩
  rw [hc] at hg loads
  obtain rfl : result = .ok config := (loads config).2 configures
  dsimp only at hg ⊢
  rw [Job.gateway_list, hg, Client.gateway_send rfl, Client.requestsOf_cons]
  cases (Client.ofConfig config).request .fetch <;> rfl

/-- Where no other server is given, a list is asked of the server of the stored profile. -/
theorem requests_list_stored {asJson : Bool}
    (h : CommandLine.Intent.ofWords words = .run ⟨none, .devices (.list asJson)⟩)
    (none_given : environment.server = none ∨ environment.server = some "") {home : String}
    (user : environment.home? = some home) {files : FileTree} {stored : Config}
    (load : Config.load files (Job.configPath home) = .ok stored) (answers : List Answer)
    (notes : List Note) :
    (run environment ⟨files, .scripted answers, notes⟩ words).2.gateway.requests =
      (Client.ofServer stored.profile.server stored.timeout).requestsOf [.fetch] := by
  have configures : Job.Configures environment files none _ := ⟨home, stored, user, load, rfl⟩
  rw [requests_list h configures, Job.ofConfig_eq configures user load]
  rcases none_given with missing | empty
  · rw [missing]
    rfl
  · rw [empty]
    rfl

/-- How a run ends that makes a profile current: without a configuration it leaves the files, and
with one it leaves what a change of the profile leaves, and ends with code 0 if that is saved. -/
theorem run_of_profile {server : Option String} {name : String}
    (h : CommandLine.Intent.ofWords words = .run ⟨server, .profile (some name)⟩)
    (environment : Environment) (desk : Desk) :
    (desk.run environment words).1 = 1 ∧
        (desk.run environment words).2.files = desk.files ∨
      ∃ config, Job.Configures environment desk.files server config ∧
        (desk.run environment words).2.files = (config.changeProfile desk.files name).2.files ∧
        ((desk.run environment words).1 = 0 ↔
          (config.changeProfile desk.files name).2.result = .ok ()) := by
  have code := (perform_run environment desk ⟨server, .profile (some name)⟩).2
  rw [run, h, files_perform]
  rcases Job.ofOrder_profile environment server name desk with
    ⟨⟨failure, fails⟩, same⟩ | ⟨config, configures, files, result⟩
  · rcases code with ⟨-, one⟩ | ⟨⟨_, done⟩, -⟩
    · exact .inl ⟨one, same⟩
    · cases fails.symm.trans done
  · refine .inr ⟨config, configures, files, ?_⟩
    rw [← result]
    rcases code with ⟨⟨_, fails⟩, one⟩ | ⟨⟨⟨⟩, done⟩, zero⟩
    · rw [fails, one]
      refine iff_of_false Nat.one_ne_zero fun done => ?_
      cases done
    · exact iff_of_true zero done

/-- Whether what a path stands for is as it was. At its location no file has come, gone or changed;
and if the directories of the path can be made without a change of where it leads, the path is read
and loaded as before. -/
structure Untouched (path : String) (before after : FileTree) : Prop where
  file : ∀ contents, after.at? (before.spot path) = some (.file contents) ↔
    before.at? (before.spot path) = some (.file contents)
  stable : Config.Stable before path →
    after.at? (before.spot path) = before.at? (before.spot path) ∧
      after.readBytes path = before.readBytes path ∧
      Config.load after path = Config.load before path

theorem Untouched.refl (path : String) (files : FileTree) : Untouched path files files :=
  ⟨fun _ => Iff.rfl, fun _ => ⟨rfl, rfl, rfl⟩⟩

/-- A save that fails leaves what its path stands for. -/
theorem Untouched.of_spares {path : String} {before : FileTree}
    {saved : FileTree.Outcome Failure} (spares : Config.Spares path before saved)
    (failed : saved.result ≠ .ok ()) : Untouched path before saved.files := by
  have error : ∃ failure, saved.result = .error failure := by
    cases h : saved.result with
    | ok => exact absurd h failed
    | error failure => exact ⟨failure, rfl⟩
  refine ⟨fun contents => ?_, spares.stable error⟩
  rcases spares.own error with same | ⟨-, missing, made⟩
  · rw [same]
  · rw [missing, made]
    exact iff_of_false (nomatch ·) (nomatch ·)

/-- The directories of the stored configuration can be made without a change of where its path
leads, if the directory of the user is there. -/
theorem stable_configPath {files : FileTree} {home : String} (sound : files.Sound)
    (directory : files.isDirectory home = true) :
    Config.Stable files (Job.configPath home) := by
  have inner : Path.IsName ".sensor-edge" := ⟨by decide, by decide, by decide, by decide⟩
  have file : Path.IsName "config.toml" := ⟨by decide, by decide, by decide, by decide⟩
  obtain ⟨some, settled⟩ := FileTree.settled_of_isDirectory directory
  obtain ⟨some, settled⟩ := settled.under some inner (by decide +kernel)
  obtain ⟨-, settled⟩ := settled.under some file (by decide +kernel)
  exact .inr ⟨sound, settled⟩

/-- The stored configuration is as it was after every run but one that makes a profile current and
ends with code 0. -/
theorem untouched_run {home : String} (user : environment.home? = some home)
    (failed : ∀ server name,
      CommandLine.Intent.ofWords words = .run ⟨server, .profile (some name)⟩ →
      (desk.run environment words).1 ≠ 0) :
    Untouched (Job.configPath home) desk.files (desk.run environment words).2.files := by
  by_cases h : ∃ server name,
      CommandLine.Intent.ofWords words = .run ⟨server, .profile (some name)⟩
  · obtain ⟨server, name, h⟩ := h
    rcases run_of_profile h environment desk with ⟨-, same⟩ | ⟨config, configures, files, done⟩
    · rw [same]
      exact .refl _ _
    · obtain ⟨home', _, user', -, -, path⟩ := configures.stored
      obtain rfl := Option.some.inj (user.symm.trans user')
      rw [files, ← path]
      exact .of_spares (Config.spares_changeProfile config desk.files name)
        (mt done.2 (failed server name h))
  · rw [files_run fun server name e => h ⟨server, name, e⟩]
    exact .refl _ _

/-- What runs do to the stored configuration. It is as it was after every run but one that makes a
profile current and ends with code 0; if the directory of the user is there, it is also read and
loaded as before. After such a run it loads with the named profile as the current one, and a list
that is asked for without another server is one call to the server which that profile had before,
whichever server was given to the run itself. -/
theorem run_profile (environment : Environment) (desk : Desk) (words : List String) :
    (∀ home, environment.home? = some home →
      (∀ server name, CommandLine.Intent.ofWords words = .run ⟨server, .profile (some name)⟩ →
        (desk.run environment words).1 ≠ 0) →
      Untouched (Job.configPath home) desk.files (desk.run environment words).2.files) ∧
    (∀ home, desk.files.Sound → desk.files.isDirectory home = true →
      Config.Stable desk.files (Job.configPath home)) ∧
    ∀ server name, CommandLine.Intent.ofWords words = .run ⟨server, .profile (some name)⟩ →
      (desk.run environment words).1 = 0 →
      ∃ home before profile, environment.home? = some home ∧
        Config.load desk.files (Job.configPath home) = .ok before ∧
        before.profiles.get? name = some profile ∧
        ∀ after : FileTree, after.readBytes (Job.configPath home) =
          (desk.run environment words).2.files.readBytes (Job.configPath home) →
          (∃ later, Config.load after (Job.configPath home) = .ok later ∧ later.current = name) ∧
          ∀ (environment' : Environment) (words' : List String) (asJson : Bool)
            (answers : List Answer) (notes : List Note), environment'.home? = some home →
            environment'.server = none ∨ environment'.server = some "" →
            CommandLine.Intent.ofWords words' = .run ⟨none, .devices (.list asJson)⟩ →
            ∃ base, Client.IsBase profile.server base ∧
              (Desk.run environment' ⟨after, .scripted answers, notes⟩ words').2.gateway.requests =
                (⟨base, profile.timeout⟩ : Client).requestsOf [.fetch] := by
  refine ⟨fun home user failed => untouched_run user failed,
    fun home sound directory => stable_configPath sound directory, fun server name h zero => ?_⟩
  rcases run_of_profile h environment desk with ⟨one, -⟩ | ⟨config, configures, files, done⟩
  · exact nomatch one.symm.trans zero
  · obtain ⟨home, before, user, load, profiles, path⟩ := configures.stored
    have writable : config.IsWritable := by
      rw [Config.IsWritable, profiles]
      exact Config.load_isWritable load
    obtain ⟨profile, hp, loads⟩ := Config.load_of_changeProfile writable (done.1 zero)
    refine ⟨home, before, profile, user, load, profiles ▸ hp, fun after same => ?_⟩
    rw [← path, files] at same
    obtain ⟨later, stored, current, own⟩ := loads after same
    rw [path] at stored
    refine ⟨⟨later, stored, current⟩, ?_⟩
    intro environment' words' asJson answers notes user' none_given h'
    rw [requests_list_stored h' none_given user' stored, Config.timeout, own]
    exact ⟨_, Client.isBase_ofServer _ profile.timeout, rfl⟩

/-- A profile is made current while another server is given, and then devices are listed. -/
theorem run_profile_lab :
    let text := "current_profile = \"plant\"\n[profile]\n" ++
      "plant = [\"http://plant\"]\nlab = [\"http://lab/\"]\n"
    let files : FileTree := ⟨[(["root"], .directory), (["root", ".sensor-edge"], .directory),
      (["root", ".sensor-edge", "config.toml"], .file text.toUTF8)], []⟩
    let switched := Desk.run ⟨[("HOME", "/root")], .empty, false, false⟩
      ⟨files, .scripted [], []⟩ ["profile", "lab", "--server", "http://gw"]
    switched.1 = 0 ∧ ∃ base, Client.IsBase "http://lab/" base ∧
      (Desk.run ⟨[("HOME", "/root"), ("SENSOR_EDGE_SERVER", "")], .empty, false, false⟩
        ⟨switched.2.files, .scripted [], []⟩ ["devices", "ls"]).2.gateway.requests =
          (⟨base, none⟩ : Client).requestsOf [.fetch] := by
  intro text files switched
  have zero : switched.1 = 0 := by decide +kernel
  have order : CommandLine.Intent.ofWords ["profile", "lab", "--server", "http://gw"] =
      .run ⟨some "http://gw", .profile (some "lab")⟩ := by decide +kernel
  have listing : CommandLine.Intent.ofWords ["devices", "ls"] =
      .run ⟨none, .devices (.list false)⟩ := by decide +kernel
  have known : (Config.load files (Job.configPath "/root")).toOption.bind
      (·.profiles.get? "lab") = some ⟨"http://lab/", "green", none⟩ := by decide +kernel
  have user : Environment.home? ⟨[("HOME", "/root")], .empty, false, false⟩ = some "/root" := by
    decide +kernel
  have user' : Environment.home?
      ⟨[("HOME", "/root"), ("SENSOR_EDGE_SERVER", "")], .empty, false, false⟩ = some "/root" := by
    decide +kernel
  have none_given : Environment.server
      ⟨[("HOME", "/root"), ("SENSOR_EDGE_SERVER", "")], .empty, false, false⟩ = some "" := by
    decide +kernel
  have runs := (run_profile ⟨[("HOME", "/root")], .empty, false, false⟩
    ⟨files, .scripted [], []⟩ ["profile", "lab", "--server", "http://gw"]).2.2 _ _ order
  obtain ⟨home, before, profile, lives, load, hp, after⟩ := runs zero
  obtain rfl := Option.some.inj (user.symm.trans lives)
  rw [load] at known
  obtain rfl : profile = ⟨"http://lab/", "green", none⟩ := Option.some.inj (hp.symm.trans known)
  exact ⟨zero, (after switched.2.files rfl).2 _ _ false [] [] user' (.inr none_given) listing⟩

end Desk

end GatewayDesk
