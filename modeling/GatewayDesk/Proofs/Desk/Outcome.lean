import GatewayDesk.Desk.Needs
import GatewayDesk.Desk.Run
import GatewayDesk.Proofs.Desk.Calls
import GatewayDesk.Proofs.Device.Input
import GatewayDesk.Proofs.Gateway.Address

/-!
# How runs with devices end

A run with devices loads the configuration, gets what its command needs, and only then calls the
gateway. It ends with code 0 exactly if none of this failed.

* `DeviceCommand.Lacks`: what a command may lack before it calls anyone.
* `DeviceCommand.calls`: the calls of a command.
* `devices_of_lacks`, `devices_follows`: what a command does without what it needs, and with it.
* `config_apply`: which configuration a run has.
* `run_devices`: how a run with devices ends, and which requests it has sent.
-/

namespace GatewayDesk

/-- Whether someone at a terminal answers a question with a line of text. -/
def Environment.Answers (environment : Environment) : Prop :=
  environment.inputIsTerminal = true ∧ ∃ line, environment.firstLine = .ok line

/-- Whether the answer of someone at a terminal is a yes. -/
def Environment.agrees (environment : Environment) : Bool :=
  environment.inputIsTerminal &&
    match environment.firstLine with
    | .ok line => Job.isYes line
    | .error _ => false

namespace CommandLine.DeviceCommand

/-- Whether a command lacks what it needs before it calls anyone: a file or standard input with a
device, a file with a list of devices, or someone to ask. -/
inductive Lacks (environment : Environment) (files : FileTree) : DeviceCommand → Prop where
  | file {command : DeviceCommand} {source : String} (h : command.source? = some source)
    (named : source ≠ DeviceFile.standardInput)
    (lacks : DeviceFile.Lacks files source fun text =>
      ∃ device, DeviceFile.parse text (.ofPath source) = .ok device) :
    Lacks environment files command
  | list {path : String}
    (lacks : DeviceFile.Lacks files path fun text =>
      ∃ devices, DeviceFile.parseList text (.ofPath path) = .ok devices) :
    Lacks environment files (.importAll path)
  | notText {command : DeviceCommand} (h : command.source? = some DeviceFile.standardInput)
    (not : ∀ text : String, environment.input ≠ text.toUTF8) : Lacks environment files command
  | otherText {command : DeviceCommand} {text : String}
    (h : command.source? = some DeviceFile.standardInput)
    (found : environment.input = text.toUTF8)
    (not : Text.isBlank text = true ∨ ¬((∃ device, Device.read text = .ok device) ∨
      ∃ device, DeviceFile.readYaml text = .ok device)) : Lacks environment files command
  | nobody {ids : List String} (h : ¬environment.Answers) :
    Lacks environment files (.remove ids false)

/-- The calls of a command that has what it needs. -/
def calls (environment : Environment) (files : FileTree) : DeviceCommand → List Call
  | .list _ => [.fetch]
  | .create source =>
    (DeviceFile.read files environment.input source).toOption.toList.map .create
  | .importAll path => ((DeviceFile.readList files path).toOption.getD []).map .create
  | .update id source =>
    (DeviceFile.read files environment.input source).toOption.toList.map (.update id)
  | .remove ids unasked => if unasked || environment.agrees then ids.map .delete else []

variable {environment : Environment} {files : FileTree}

/-- A command that sends a device lacks it exactly if it cannot be read. -/
theorem lacks_source_iff {command : DeviceCommand} {source : String}
    (h : command.source? = some source) :
    command.Lacks environment files ↔
      ¬∃ device, DeviceFile.read files environment.input source = .ok device := by
  by_cases named : source = DeviceFile.standardInput
  · subst named
    have known : (∃ device, DeviceFile.read files environment.input DeviceFile.standardInput =
        .ok device) ↔ ∃ text : String, environment.input = text.toUTF8 ∧
          Text.isBlank text = false ∧ ((∃ device, Device.read text = .ok device) ∨
            ∃ device, DeviceFile.readYaml text = .ok device) := by
      simp only [DeviceFile.read, if_true, DeviceFile.readInput_eq_ok_iff,
        ← DeviceFile.parseAny_eq_ok_iff]
      grind
    rw [known]
    constructor
    · rintro lacks ⟨text, ht, some, parses⟩
      cases lacks with
      | file h' named => rw [h] at h'; cases h'; exact named rfl
      | list => cases h
      | notText h' not => exact not text ht
      | otherText h' found not =>
        obtain rfl := String.toByteArray_inj.1 (found.symm.trans ht)
        rcases not with blank | not
        · rw [some] at blank
          cases blank
        · exact not parses
      | nobody => cases h
    · intro none
      by_cases text : ∃ text : String, environment.input = text.toUTF8
      · obtain ⟨text, ht⟩ := text
        refine .otherText h ht ?_
        by_cases blank : Text.isBlank text = true
        · exact .inl blank
        · exact .inr fun parses => none ⟨text, ht, by simpa using blank, parses⟩
      · exact .notText h fun t e => text ⟨t, e⟩
  · have known : (∃ device, DeviceFile.read files environment.input source = .ok device) ↔
        ∃ text, files.readText source = .ok text ∧
          ∃ device, DeviceFile.parse text (.ofPath source) = .ok device := by
      simp only [DeviceFile.read_eq_ok_iff named]
      grind
    rw [known, ← DeviceFile.lacks_iff]
    constructor
    · intro lacks
      cases lacks with
      | file h' _ lacks => rw [h] at h'; cases h'; exact lacks
      | list => cases h
      | notText h' => rw [h] at h'; cases h'; exact absurd rfl named
      | otherText h' => rw [h] at h'; cases h'; exact absurd rfl named
      | nobody => cases h
    · exact .file h named

/-- A command that sends the devices of a list lacks them exactly if they cannot be read. -/
theorem lacks_importAll_iff {path : String} :
    (importAll path).Lacks environment files ↔
      ¬∃ devices, DeviceFile.readList files path = .ok devices := by
  have known : (∃ devices, DeviceFile.readList files path = .ok devices) ↔
      ∃ text, files.readText path = .ok text ∧
        ∃ devices, DeviceFile.parseList text (.ofPath path) = .ok devices := by
    simp only [DeviceFile.readList_eq_ok_iff]
    grind
  rw [known, ← DeviceFile.lacks_iff]
  constructor
  · rintro (h | lacks | h | h)
    · cases h
    · exact lacks
    · cases h
    · cases h
  · exact .list

end CommandLine.DeviceCommand

namespace Job

variable {environment : Environment} {client : Client} {desk : Desk}

/-! ## What is read and asked -/

theorem readDevice_bind {α : Type} (input : ByteArray) (source : String) (next : Device → Job α)
    (desk : Desk) :
    (readDevice input source >>= next) desk =
      match DeviceFile.read desk.files input source with
      | .ok device => next device desk
      | .error failure => (.error failure, desk) := by
  have read : readDevice input source desk = (DeviceFile.read desk.files input source, desk) := rfl
  rw [bind_apply, read]
  cases DeviceFile.read desk.files input source <;> rfl

theorem readDevices_bind {α : Type} (path : String) (next : List Device → Job α) (desk : Desk) :
    (readDevices path >>= next) desk =
      match DeviceFile.readList desk.files path with
      | .ok devices => next devices desk
      | .error failure => (.error failure, desk) := by
  have read : readDevices path desk = (DeviceFile.readList desk.files path, desk) := rfl
  rw [bind_apply, read]
  cases DeviceFile.readList desk.files path <;> rfl

theorem gateway_ask (environment : Environment) (desk : Desk) :
    (ask environment desk).2.gateway = desk.gateway := by
  rw [ask_eq]
  split <;> rfl

/-- Whoever is asked must answer with a line of text. -/
theorem ask_eq_ok_iff {yes : Bool} :
    (ask environment desk).1 = .ok yes ↔ environment.Answers ∧ yes = environment.agrees := by
  unfold ask Environment.Answers Environment.agrees
  cases environment.inputIsTerminal with
  | false => exact iff_of_false (nomatch ·) (nomatch ·.1.1)
  | true =>
    cases environment.firstLine with
    | error fault => exact iff_of_false (nomatch ·) fun ⟨⟨_, _, h⟩, _⟩ => nomatch h
    | ok line =>
      refine ⟨fun h => ⟨⟨rfl, line, rfl⟩, (Except.ok.inj h).symm⟩, ?_⟩
      rintro ⟨-, rfl⟩
      rfl

/-! ## Commands -/

/-- A plan that is followed at a gateway which answers as a list says. -/
theorem Follows.scripted {α : Type} {plan : List Call} {files : FileTree} {answers : List Answer}
    {notes : List Note} {outcome : Attempt α × Desk}
    (h : Follows client plan ⟨files, .scripted answers, notes⟩ outcome) :
    ∃ made, made <+: plan ∧ outcome.2.gateway.requests = client.requestsOf made ∧
      ((∃ a, outcome.1 = .ok a) ↔ made = plan ∧
        (∀ call ∈ plan, ∃ request, client.request call = .ok request) ∧
        ∀ k < plan.length, ¬(answers.getD k .allWell).Fails) := by
  obtain ⟨made, part, hg, done⟩ := h
  refine ⟨made, part, ?_, ?_⟩
  · rw [hg, Client.requests_sendAll rfl]
    rfl
  · rw [done]
    refine and_congr_right fun whole => ?_
    rw [whole, Client.isOk_sendAll_iff rfl]
    simp [Answer.fails_iff, Gateway.scripted]

/-- Devices are removed at once, or after a yes; without an answer the job fails. -/
theorem remove_apply (client : Client) (environment : Environment) (ids : List String)
    (unasked : Bool) (desk : Desk) :
    ∃ asked after : Desk, asked.gateway = desk.gateway ∧ after.gateway = desk.gateway ∧
      remove client environment ids unasked desk =
        match if unasked then .ok true else (ask environment asked).1 with
        | .error failure => (.error failure, after)
        | .ok true => removeAll client environment.wantsPaint ids after
        | .ok false => sayLine "Cancelled." after := by
  let listed := desk.note (removalList ids)
  cases unasked with
  | true => exact ⟨listed, listed, rfl, rfl, remove_eq client environment ids true desk⟩
  | false =>
    refine ⟨listed, (ask environment listed).2, rfl, gateway_ask environment listed, ?_⟩
    rw [remove_eq, if_neg Bool.false_ne_true]
    rcases ask environment listed with ⟨failure | _ | _, after⟩ <;> rfl

/-- A command that lacks something fails, and calls no gateway. -/
theorem devices_of_lacks (client : Client) {command : CommandLine.DeviceCommand}
    (h : command.Lacks environment desk.files) :
    (∃ failure, (devices environment client command desk).1 = .error failure) ∧
      (devices environment client command desk).2.gateway = desk.gateway := by
  have unread {source : String} (h' : command.source? = some source) :
      ∃ failure, DeviceFile.read desk.files environment.input source = .error failure := by
    have none := (CommandLine.DeviceCommand.lacks_source_iff h').1 h
    cases hr : DeviceFile.read desk.files environment.input source with
    | ok device => exact absurd ⟨device, hr⟩ none
    | error failure => exact ⟨failure, rfl⟩
  cases command with
  | list asJson =>
    cases h with
    | file h => cases h
    | notText h => cases h
    | otherText h => cases h
  | create source =>
    obtain ⟨failure, hr⟩ := unread rfl
    rw [devices, create, readDevice_bind, hr]
    exact ⟨⟨failure, rfl⟩, rfl⟩
  | importAll path =>
    have none := CommandLine.DeviceCommand.lacks_importAll_iff.1 h
    rw [devices, importAll, readDevices_bind]
    cases hr : DeviceFile.readList desk.files path with
    | ok devices => exact absurd ⟨devices, hr⟩ none
    | error failure => exact ⟨⟨failure, rfl⟩, rfl⟩
  | update id source =>
    obtain ⟨failure, hr⟩ := unread rfl
    rw [devices, update, readDevice_bind, hr]
    exact ⟨⟨failure, rfl⟩, rfl⟩
  | remove ids unasked =>
    cases h with
    | file h => cases h
    | notText h => cases h
    | otherText h => cases h
    | nobody mute =>
      obtain ⟨asked, after, -, same, he⟩ := remove_apply client environment ids false desk
      rw [devices, he]
      cases hr : (ask environment asked).1 with
      | ok yes => exact absurd (ask_eq_ok_iff.1 hr).1 mute
      | error failure => exact ⟨⟨failure, rfl⟩, same⟩

/-- A command that has what it needs makes its calls. -/
theorem devices_follows {command : CommandLine.DeviceCommand}
    (h : ¬command.Lacks environment desk.files) :
    Follows client (command.calls environment desk.files) desk
      (devices environment client command desk) := by
  have read {source : String} (h' : command.source? = some source) :
      ∃ device, DeviceFile.read desk.files environment.input source = .ok device :=
    Classical.not_not.1 (mt (CommandLine.DeviceCommand.lacks_source_iff h').2 h)
  cases command with
  | list asJson => exact follows_list client environment.wantsPaint asJson desk
  | create source =>
    obtain ⟨device, hd⟩ := read rfl
    rw [devices, create, readDevice_bind, CommandLine.DeviceCommand.calls, hd]
    exact follows_call fun reply =>
      ((isQuiet_sayLine _).bind fun _ => isQuiet_sayReply reply).follows
  | importAll path =>
    obtain ⟨list, hl⟩ := Classical.not_not.1 (mt CommandLine.DeviceCommand.lacks_importAll_iff.2 h)
    rw [devices, importAll, readDevices_bind, CommandLine.DeviceCommand.calls, hl]
    exact (follows_importFrom client _ _ _ list desk).quiet fun _ => isQuiet_sayLine _
  | update id source =>
    obtain ⟨device, hd⟩ := read rfl
    rw [devices, update, readDevice_bind, CommandLine.DeviceCommand.calls, hd]
    exact follows_call fun reply =>
      ((isQuiet_sayLine _).bind fun _ => isQuiet_sayReply reply).follows
  | remove ids unasked =>
    obtain ⟨asked, after, -, same, he⟩ := remove_apply client environment ids unasked desk
    rw [devices, he, CommandLine.DeviceCommand.calls]
    refine Follows.of_gateway ?_ same
    -- Whoever is asked answers, since nothing is lacking.
    have answer : (if unasked then Except.ok true else (ask environment asked).1) =
        .ok (unasked || environment.agrees) := by
      cases unasked with
      | true => rfl
      | false =>
        refine ask_eq_ok_iff.2 ⟨Classical.not_not.1 fun mute => h (.nobody mute), rfl⟩
    rw [answer]
    cases unasked || environment.agrees with
    | true => exact follows_removeAll client environment.wantsPaint ids after
    | false => exact (isQuiet_sayLine _).follows

/-! ## The configuration -/

/-- Whether a configuration is that of a run: it is loaded from the directory of the user, and the
server of the command line has its way over that of the environment. -/
def Configures (environment : Environment) (files : FileTree) (server : Option String)
    (config : Config) : Prop :=
  ∃ home loaded, environment.home? = some home ∧
    Config.load files (configPath home) = .ok loaded ∧
    config = server.elim (loaded.setEnvironment environment.server)
      (loaded.setEnvironment environment.server).setOverride

theorem Configures.unique {files : FileTree} {server : Option String} {config config' : Config}
    (h : Configures environment files server config)
    (h' : Configures environment files server config') : config = config' := by
  obtain ⟨home, loaded, hh, hl, rfl⟩ := h
  obtain ⟨home', loaded', hh', hl', rfl⟩ := h'
  obtain rfl := Option.some.inj (hh.symm.trans hh')
  obtain rfl := Except.ok.inj (hl.symm.trans hl')
  rfl

/-- Where nothing is stored, a run has the configuration of the start, and calls the server of the
command line. -/
theorem configures_gw :
    ∃ config, Configures ⟨[("HOME", "/root")], .empty, false, false⟩ ⟨[], []⟩ (some "http://gw")
        config ∧
      Client.ofConfig config = .ofServer "http://gw" none :=
  ⟨_, ⟨"/root", .initial _, by decide +kernel, rfl, rfl⟩, rfl⟩

theorem loadConfig_apply (path : String) (desk : Desk) :
    ∃ after : Desk, after.files = desk.files ∧ after.gateway = desk.gateway ∧
      loadConfig path desk = (Config.load desk.files path, after) := by
  have at_desk : files desk = (.ok desk.files, desk) := rfl
  unfold loadConfig
  rw [bind_apply, at_desk]
  cases missing : Config.isMissing desk.files path with
  | true => exact ⟨desk.note (.event (noConfig path)), rfl, rfl, by simp [missing]; rfl⟩
  | false => exact ⟨desk, rfl, rfl, by simp [missing]; rfl⟩

/-- To load the configuration changes no file and calls no gateway. -/
theorem config_apply (environment : Environment) (server : Option String) (desk : Desk) :
    (config environment server desk).2.files = desk.files ∧
      (config environment server desk).2.gateway = desk.gateway ∧
      ∀ loaded, (config environment server desk).1 = .ok loaded ↔
        Configures environment desk.files server loaded := by
  unfold config Configures
  cases environment.home? with
  | none => exact ⟨rfl, rfl, fun _ => iff_of_false (nomatch ·) (nomatch ·)⟩
  | some home =>
    obtain ⟨after, hf, hg, load⟩ := loadConfig_apply (configPath home) desk
    dsimp only
    rw [bind_apply, load]
    cases hl : Config.load desk.files (configPath home) with
    | error failure =>
      refine ⟨hf, hg, fun _ => iff_of_false (nomatch ·) ?_⟩
      rintro ⟨_, _, ⟨⟩, h, -⟩
      exact nomatch hl.symm.trans h
    | ok loaded =>
      refine ⟨by cases server <;> exact hf, by cases server <;> exact hg, fun config => ?_⟩
      constructor
      · intro h
        refine ⟨home, loaded, rfl, hl, ?_⟩
        cases server <;> exact (Except.ok.inj h).symm
      · rintro ⟨_, _, ⟨⟩, h, rfl⟩
        obtain rfl := Except.ok.inj (hl.symm.trans h)
        cases server <;> rfl

end Job

/-! ## Runs -/

namespace Desk

/-- Whether a run cannot begin: no one knows where the configuration is, or it does not load, or the
command lacks something. -/
inductive Unready (environment : Environment) (files : FileTree)
    (command : CommandLine.DeviceCommand) : Prop where
  | homeless (h : environment.home? = none)
  | unloaded {home : String} {failure : Failure} (h : environment.home? = some home)
    (fails : Config.load files (Job.configPath home) = .error failure)
  | lacking (h : command.Lacks environment files)

variable {environment : Environment} {files : FileTree} {command : CommandLine.DeviceCommand}

theorem unready_iff {server : Option String} :
    Unready environment files command ↔
      (∀ config, ¬Job.Configures environment files server config) ∨
        command.Lacks environment files := by
  constructor
  · rintro (h | ⟨h, fails⟩ | h)
    · exact .inl fun config ⟨home, _, known, _⟩ => nomatch h.symm.trans known
    · refine .inl fun config ⟨home, loaded, known, load, _⟩ => ?_
      obtain rfl := Option.some.inj (h.symm.trans known)
      exact nomatch fails.symm.trans load
    · exact .inr h
  · rintro (none | lacks)
    · cases h : environment.home? with
      | none => exact .homeless h
      | some home =>
        cases load : Config.load files (Job.configPath home) with
        | error failure => exact .unloaded h load
        | ok loaded => exact absurd ⟨home, loaded, h, load, rfl⟩ (none _)
    · exact .lacking lacks

/-- A run that can begin follows the calls of its command, and one that cannot leaves the gateway
as it is and fails. -/
theorem ofOrder_devices (environment : Environment) (server : Option String)
    (command : CommandLine.DeviceCommand) (desk : Desk) :
    Unready environment desk.files command ∧
        (∃ failure, (Job.ofOrder environment ⟨server, .devices command⟩ desk).1 = .error failure) ∧
        (Job.ofOrder environment ⟨server, .devices command⟩ desk).2.gateway = desk.gateway ∨
      ¬Unready environment desk.files command ∧
        ∃ config, Job.Configures environment desk.files server config ∧
          Job.Follows (.ofConfig config) (command.calls environment desk.files) desk
            (Job.ofOrder environment ⟨server, .devices command⟩ desk) := by
  obtain ⟨hf, hg, loads⟩ := Job.config_apply environment server desk
  have order : Job.ofOrder environment ⟨server, .devices command⟩ =
      Job.config environment server >>= fun config =>
        Job.devices environment (.ofConfig config) command := rfl
  rw [unready_iff, order, Job.bind_apply]
  rcases hc : Job.config environment server desk with ⟨failure | config, after⟩ <;>
    rw [hc] at hf hg loads
  · exact .inl ⟨.inl fun config h => (nomatch (loads config).2 h), ⟨failure, rfl⟩, hg⟩
  · have configures := (loads config).1 rfl
    dsimp only at hf hg ⊢
    rw [← hf] at configures ⊢
    by_cases lacks : command.Lacks environment after.files
    · obtain ⟨fails, same⟩ := Job.devices_of_lacks (.ofConfig config) lacks
      exact .inl ⟨.inr lacks, fails, same.trans hg⟩
    · refine .inr ⟨?_, config, configures, (Job.devices_follows lacks).of_gateway hg⟩
      rintro (none | h)
      · exact none config configures
      · exact lacks h

/-- A run ends with code 0 if what it is meant to do is done, else with code 1. -/
theorem perform_run (environment : Environment) (desk : Desk) (order : CommandLine.Order) :
    (desk.perform environment (.run order)).2.gateway =
        (Job.ofOrder environment order desk).2.gateway ∧
      ((∃ failure, (Job.ofOrder environment order desk).1 = .error failure) ∧
          (desk.perform environment (.run order)).1 = 1 ∨
        (∃ done, (Job.ofOrder environment order desk).1 = .ok done) ∧
          (desk.perform environment (.run order)).1 = 0) := by
  rcases hj : Job.ofOrder environment order desk with ⟨failure | done, after⟩ <;>
    simp [perform, hj, note]

/-- How a run ends with what came of its order. -/
def ended : Attempt Unit × Desk → Nat × Desk
  | (.ok (), desk) => (0, desk)
  | (.error failure, desk) => (1, desk.note (.err failure.report))

/-- A run whose configuration loads does what its command says, at a desk where nothing has been
said or sent. -/
theorem run_configured {words : List String} {server : Option String} {config : Config}
    (order : CommandLine.Intent.ofWords words = .run ⟨server, .devices command⟩)
    (configures : Job.Configures environment files server config) (answers : List Answer) :
    ∃ desk : Desk, desk.files = files ∧ desk.gateway = .scripted answers ∧ desk.said = [] ∧
      run environment ⟨files, .scripted answers, []⟩ words =
        ended (Job.devices environment (.ofConfig config) command desk) := by
  obtain ⟨hf, hg, loads⟩ := Job.config_apply environment server ⟨files, .scripted answers, []⟩
  have silent := Job.isSilent_config environment server ⟨files, .scripted answers, []⟩
  have loaded := (loads config).2 configures
  refine ⟨_, hf, hg, silent, ?_⟩
  have runs : Job.ofOrder environment ⟨server, .devices command⟩ ⟨files, .scripted answers, []⟩ =
      Job.devices environment (.ofConfig config) command
        (Job.config environment server ⟨files, .scripted answers, []⟩).2 := by
    show (Job.config environment server >>= _) _ = _
    rw [Job.bind_apply]
    rcases hc : Job.config environment server ⟨files, .scripted answers, []⟩ with ⟨result, after⟩
    rw [hc] at loaded
    obtain rfl : result = .ok config := loaded
    rfl
  rw [run, order, perform, runs]
  rcases Job.devices environment (.ofConfig config) command _ with ⟨_ | _, _⟩ <;> rfl

/-- A run without a configuration sends nothing, and says nothing but why it fails. -/
theorem run_unconfigured {words : List String} {server : Option String}
    (order : CommandLine.Intent.ofWords words = .run ⟨server, .devices command⟩)
    (none : ∀ config, ¬Job.Configures environment files server config) (answers : List Answer) :
    (run environment ⟨files, .scripted answers, []⟩ words).2.gateway.requests = [] ∧
      (run environment ⟨files, .scripted answers, []⟩ words).1 = 1 ∧
      ∃ failure : Failure,
        (run environment ⟨files, .scripted answers, []⟩ words).2.said = [.err failure.report] := by
  obtain ⟨-, hg, loads⟩ := Job.config_apply environment server ⟨files, .scripted answers, []⟩
  have silent := Job.isSilent_config environment server ⟨files, .scripted answers, []⟩
  rcases hc : Job.config environment server ⟨files, .scripted answers, []⟩ with
    ⟨failure | config, after⟩ <;> rw [hc] at hg loads silent
  · have runs : Job.ofOrder environment ⟨server, .devices command⟩
        ⟨files, .scripted answers, []⟩ = (.error failure, after) := by
      show (Job.config environment server >>= _) _ = _
      rw [Job.bind_apply, hc]
    rw [run, order, perform, runs]
    refine ⟨congrArg Gateway.requests hg, rfl, failure, ?_⟩
    show (after.note _).said = _
    rw [said_err, silent]
    rfl
  · exact absurd ((loads config).1 rfl) (none config)

/-- A run that removes devices without a question sends a request for each that has an address. -/
theorem requests_run_remove {words : List String} {server : Option String} {config : Config}
    {ids : List String}
    (order : CommandLine.Intent.ofWords words = .run ⟨server, .devices (.remove ids true)⟩)
    (configures : Job.Configures environment files server config) (answers : List Answer) :
    (run environment ⟨files, .scripted answers, []⟩ words).2.gateway.requests =
      (Client.ofConfig config).requestsOf (ids.map .delete) := by
  obtain ⟨desk, -, gateway, -, runs⟩ := run_configured order configures answers
  have jobs : Job.devices environment (.ofConfig config) (.remove ids true) desk =
      Job.removeAll (.ofConfig config) environment.wantsPaint ids
        (desk.note (Job.removalList ids)) := Job.remove_eq _ _ _ _ _
  obtain ⟨after, removed, -, all⟩ := Job.removeAll_apply (.ofConfig config) environment.wantsPaint
    ids (desk.note (Job.removalList ids))
  have ends : (run environment ⟨files, .scripted answers, []⟩ words).2.gateway = after.gateway := by
    rw [runs, jobs, all]
    split <;> rfl
  rw [Job.gateway_note, gateway] at removed
  rw [ends, removed, Client.requests_sendAll rfl]
  rfl

/-- How a run with devices ends, at a desk whose gateway answers as a list says. A run that cannot
begin sends nothing and ends with code 1. So does one whose command makes a call to no address, and
one that sends a request which the gateway does not answer with a success. Any other run makes all
calls of its command, and ends with code 0. -/
theorem run_devices {words : List String} {server : Option String}
    {command : CommandLine.DeviceCommand}
    (h : CommandLine.Intent.ofWords words = .run ⟨server, .devices command⟩)
    (environment : Environment) (files : FileTree) (answers : List Answer) (notes : List Note) :
    let outcome := Desk.run environment ⟨files, .scripted answers, notes⟩ words
    let sent := outcome.2.gateway.requests
    let calls := command.calls environment files
    (outcome.1 = 0 ∨ outcome.1 = 1) ∧
      (Unready environment files command → sent = [] ∧ outcome.1 = 1) ∧
      ((∃ k < sent.length, (answers.getD k .allWell).Fails) → outcome.1 = 1) ∧
      (∀ config, Job.Configures environment files server config →
        (∃ call ∈ calls, ∃ e, (Client.ofConfig config).request call = .error e) → outcome.1 = 1) ∧
      (outcome.1 = 0 → ∀ k < sent.length, ¬(answers.getD k .allWell).Fails) ∧
      (¬Unready environment files command →
        ∃ config made, Job.Configures environment files server config ∧ made <+: calls ∧
          sent = (Client.ofConfig config).requestsOf made ∧
          (outcome.1 = 0 ↔ made = calls ∧
            (∀ call ∈ calls, ∃ request, (Client.ofConfig config).request call = .ok request) ∧
            ∀ k < calls.length, ¬(answers.getD k .allWell).Fails)) := by
  intro outcome sent calls
  have performs : outcome = Desk.perform environment ⟨files, .scripted answers, notes⟩
      (.run ⟨server, .devices command⟩) := by rw [← h]; rfl
  obtain ⟨hg, code⟩ := perform_run environment ⟨files, .scripted answers, notes⟩
    ⟨server, .devices command⟩
  rw [← performs] at hg code
  have either : outcome.1 = 0 ∨ outcome.1 = 1 := code.symm.imp And.right And.right
  rcases ofOrder_devices environment server command ⟨files, .scripted answers, notes⟩ with
    ⟨unready, ⟨failure, fails⟩, same⟩ | ⟨ready, config, configures, follows⟩
  · have one : outcome.1 = 1 := code.elim (·.2) fun ⟨⟨_, done⟩, _⟩ => nomatch fails.symm.trans done
    have none : sent = [] := congrArg Gateway.requests (hg.trans same)
    exact ⟨either, fun _ => ⟨none, one⟩, fun _ => one, fun _ _ _ => one,
      fun zero => absurd (one.symm.trans zero) Nat.one_ne_zero, fun ready => absurd unready ready⟩
  · obtain ⟨made, part, requests, done⟩ := follows.scripted
    have sentEq : sent = (Client.ofConfig config).requestsOf made :=
      (congrArg Gateway.requests hg).trans requests
    have zero : outcome.1 = 0 ↔ made = calls ∧
        (∀ call ∈ calls, ∃ request, (Client.ofConfig config).request call = .ok request) ∧
        ∀ k < calls.length, ¬(answers.getD k .allWell).Fails := by
      rw [← done]
      rcases code with ⟨⟨_, fails⟩, one⟩ | ⟨done, zero⟩
      · exact iff_of_false (fun zero => Nat.one_ne_zero (one.symm.trans zero)) fun ⟨_, done⟩ =>
          nomatch fails.symm.trans done
      · exact iff_of_true zero done
    -- There are no more requests than calls, so no more answers are taken.
    have fewer : sent.length ≤ calls.length := by
      rw [sentEq]
      exact Nat.le_trans (List.length_filterMap_le _ _) part.length_le
    have well (z : outcome.1 = 0) : ∀ k < sent.length, ¬(answers.getD k .allWell).Fails :=
      fun k hk => (zero.1 z).2.2 k (Nat.lt_of_lt_of_le hk fewer)
    refine ⟨either, fun unready => absurd unready ready, ?_, ?_, well,
      fun _ => ⟨config, made, configures, part, sentEq, zero⟩⟩
    · rintro ⟨k, hk, fails⟩
      exact either.resolve_left fun z => well z k hk fails
    · rintro config' configures' ⟨call, mem, e, refused⟩
      obtain rfl := configures.unique configures'
      refine either.resolve_left fun z => ?_
      obtain ⟨request, accepted⟩ := (zero.1 z).2.1 call mem
      exact nomatch refused.symm.trans accepted

/-- Two devices are to be removed. The first request fails and the second does not, and the run ends
with code 1. -/
theorem run_devices_lost :
    let answers : List Answer := [.reply 404 "Not Found" "gone" false, .reply 200 "OK" "" false]
    let outcome := Desk.run ⟨[("HOME", "/root")], .empty, false, false⟩
      ⟨⟨[], []⟩, .scripted answers, []⟩
      ["devices", "rm", "--yes", "a", "b", "--server", "http://gw"]
    outcome.2.gateway.requests.map (fun r => (r.method, r.url.text)) =
        [(.delete, "http://gw/api/devices/a"), (.delete, "http://gw/api/devices/b")] ∧
      (answers.getD 0 .allWell).Fails ∧ ¬(answers.getD 1 .allWell).Fails ∧ outcome.1 = 1 := by
  intro answers
  dsimp only
  have order : CommandLine.Intent.ofWords
      ["devices", "rm", "--yes", "a", "b", "--server", "http://gw"] =
        .run ⟨some "http://gw", .devices (.remove ["a", "b"] true)⟩ := by decide +kernel
  obtain ⟨config, configures, client⟩ := Job.configures_gw
  have safeA : Segments.IsSafe "a".toList := by decide +kernel
  have safeB : Segments.IsSafe "b".toList := by decide +kernel
  obtain ⟨a, ha, deletesA, textA⟩ := Client.request_delete_gw safeA (by decide +kernel)
  obtain ⟨b, hb, deletesB, textB⟩ := Client.request_delete_gw safeB (by decide +kernel)
  have requests :
      (Client.ofServer "http://gw" none).requestsOf (["a", "b"].map .delete) = [a, b] := by
    simp [Client.requestsOf, ha, hb, Except.toOption]
  have sent := requests_run_remove order configures answers
  rw [client, requests] at sent
  obtain ⟨-, -, broken, -⟩ := run_devices order _ _ answers []
  -- The run itself is not looked into any more.
  generalize run _ _ _ = outcome at sent broken ⊢
  rw [sent] at broken ⊢
  have fails : (answers.getD 0 .allWell).Fails := .status (by decide)
  have passes : ¬(answers.getD 1 .allWell).Fails := by
    rw [Answer.fails_iff]
    decide
  refine ⟨?_, fails, passes, broken ⟨0, Nat.zero_lt_two, fails⟩⟩
  simp [textA, textB, deletesA, deletesB]

end Desk

end GatewayDesk
