import GatewayDesk.Proofs.Config.Invariant

/-!
# Servers that stand in

A server that stands in for that of the current profile is held, and never kept: whatever else is
done in a session comes out as if no server had been given to stand in.

* `Config.plain`: a configuration without the server that stands in.
* `perform_congr`: a step ends alike, whichever server stands in.
* `history_filter`: what a session shows is what it shows without the steps that say what stands in.
* `domain_run`: the server in use is the last that was given since the configuration was loaded.
-/

namespace GatewayDesk

namespace Config

/-- Right after a load, no server stands in. -/
theorem override_load {files : FileTree} {path : String} {loaded : Config}
    (load : Config.load files path = .ok loaded) : loaded.override = none := by
  rcases load_eq_ok.1 load with ⟨-, rfl⟩ | ⟨_, -, -, fresh, -⟩
  · rfl
  · exact fresh

/-- The configuration without a server that stands in. -/
def plain (config : Config) : Config := { config with override := none }

@[simp] theorem plain_plain (config : Config) : config.plain.plain = config.plain := rfl

@[simp] theorem plain_setEnvironment (config : Config) (server : Option String) :
    (config.setEnvironment server).plain = config.plain := by
  cases server with
  | none => rfl
  | some server =>
    rw [setEnvironment]
    split <;> rfl

/-- What is written does not say which server stands in. -/
theorem save_plain (config : Config) (files : FileTree) :
    config.plain.save files = config.save files := by
  unfold save replace text
  rfl

theorem changeProfile_plain (config : Config) (files : FileTree) (name : String) :
    config.plain.changeProfile files name =
      ((config.changeProfile files name).1.plain, (config.changeProfile files name).2) := by
  rcases changeProfile_eq config files name with ⟨missing, unchanged⟩ | ⟨known, changed⟩
  · rcases changeProfile_eq config.plain files name with ⟨-, plain⟩ | ⟨known, -⟩
    · rw [plain, unchanged]
    · exact absurd known (by simp [Config.plain, missing])
  · rcases changeProfile_eq config.plain files name with ⟨missing, -⟩ | ⟨_, plain⟩
    · exact absurd known (by simp [show config.profiles.get? name = none from missing])
    · rw [plain, changed, ← save_plain { config with current := name, current_mem := known }]
      rfl

namespace Session

/-! ## Steps -/

/-- Whether a step does more than to say which server stands in. -/
def Step.isShared : Step → Bool
  | .environment _ => false
  | .override _ => false
  | _ => true

/-- The session without a server that stands in. -/
def plain (session : Session) : Session := ⟨session.files, session.config.map Config.plain⟩

/-- To say which server stands in does nothing else. -/
theorem plain_perform {step : Step} (h : step.isShared = false) (session : Session) :
    (session.perform step).1.plain = session.plain := by
  cases step with
  | environment server =>
    obtain ⟨files, _ | config⟩ := session
    · rfl
    · simp only [perform, plain, Option.map_some, plain_setEnvironment]
  | override server => obtain ⟨files, _ | config⟩ := session <;> rfl
  | load | save | change | rewrite => cases h

theorem perform_plain (session : Session) (step : Step) :
    (session.plain.perform step).1.plain = (session.perform step).1.plain ∧
      (session.plain.perform step).2 = (session.perform step).2 := by
  obtain ⟨files, _ | config⟩ := session
  · exact ⟨rfl, rfl⟩
  · cases step with
    | load path =>
      simp only [perform, plain]
      cases Config.load files path <;> exact ⟨rfl, rfl⟩
    | save => exact ⟨rfl, rfl⟩
    | change name =>
      simp only [perform, plain, Option.map_some, changeProfile_plain, Config.plain_plain, and_self]
    | environment server =>
      simp only [perform, plain, Option.map_some, plain_setEnvironment, Config.plain_plain,
        and_self]
    | override server => exact ⟨rfl, rfl⟩
    | rewrite files => exact ⟨rfl, rfl⟩

/-- A step ends alike, and leaves the like, whichever server stands in. -/
theorem perform_congr {session session' : Session} (alike : session.plain = session'.plain)
    (step : Step) :
    (session.perform step).1.plain = (session'.perform step).1.plain ∧
      (session.perform step).2 = (session'.perform step).2 := by
  obtain ⟨left, result⟩ := perform_plain session step
  obtain ⟨left', result'⟩ := perform_plain session' step
  rw [alike] at left result
  exact ⟨left.symm.trans left', result.symm.trans result'⟩

/-! ## Histories -/

/-- What a step shows, but for the server that stands in: how it ends, and what it leaves. -/
structure Mark where
  result : Attempt Unit
  files : FileTree
  current : Option String
  profiles : Option Profiles
  timeout : Option (Option Seconds)

/-- What is shown by a step that has ended. -/
def mark (ended : Session × Attempt Unit) : Mark where
  result := ended.2
  files := ended.1.files
  current := ended.1.config.map (·.current)
  profiles := ended.1.config.map (·.profiles)
  timeout := ended.1.config.map (·.timeout)

/-- What the steps show that do more than to say which server stands in. -/
def history (session : Session) : List Step → List Mark
  | [] => []
  | step :: steps =>
    let ended := session.perform step
    if step.isShared then mark ended :: ended.1.history steps else ended.1.history steps

theorem mark_plain (ended : Session × Attempt Unit) :
    mark (ended.1.plain, ended.2) = mark ended := by
  obtain ⟨⟨files, _ | config⟩, result⟩ := ended <;> rfl

variable {session session' : Session}

/-- What steps show, and leave, does not depend on the server that stands in. -/
theorem history_congr (alike : session.plain = session'.plain) (steps : List Step) :
    session.history steps = session'.history steps ∧
      (session.run steps).plain = (session'.run steps).plain := by
  induction steps generalizing session session' with
  | nil => exact ⟨rfl, alike⟩
  | cons step steps ih =>
    obtain ⟨left, result⟩ := perform_congr alike step
    obtain ⟨histories, runs⟩ := ih left
    have marks : mark (session.perform step) = mark (session'.perform step) := by
      rw [← mark_plain, left, result, mark_plain]
    exact ⟨by rw [history, history, marks, histories], runs⟩

/-- What steps show, and leave, is the same without those that say which server stands in. -/
theorem history_filter (session : Session) (steps : List Step) :
    session.history steps = session.history (steps.filter Step.isShared) ∧
      (session.run steps).plain = (session.run (steps.filter Step.isShared)).plain := by
  induction steps generalizing session with
  | nil => exact ⟨rfl, rfl⟩
  | cons step steps ih =>
    cases shared : step.isShared with
    | true =>
      obtain ⟨histories, runs⟩ := ih (session.perform step).1
      rw [List.filter_cons_of_pos shared]
      exact ⟨by rw [history, history, histories], runs⟩
    | false =>
      obtain ⟨histories, runs⟩ := history_congr (plain_perform shared session) steps
      obtain ⟨histories', runs'⟩ := ih session
      rw [List.filter_cons_of_neg (by simp [shared]), ← histories', ← histories, ← runs', ← runs,
        history, shared]
      exact ⟨rfl, rfl⟩

/-- Two runs that differ only in the steps that say which server stands in show the same: how each
other step ends, the files that it leaves, and the current profile, the profiles and the timeout.
In the end nothing but the server that stands in tells them apart. -/
theorem history_of_shared {steps steps' : List Step}
    (shared : steps.filter Step.isShared = steps'.filter Step.isShared) (session : Session) :
    session.history steps = session.history steps' ∧
      (session.run steps).plain = (session.run steps').plain := by
  obtain ⟨histories, runs⟩ := history_filter session steps
  obtain ⟨histories', runs'⟩ := history_filter session steps'
  rw [histories, histories', runs, runs', shared]
  exact ⟨rfl, rfl⟩

/-- A password that is given for one run is in use, and what is saved is what would be without. -/
theorem history_of_shared_password :
    let start : Session := ⟨⟨[], []⟩, none⟩
    let steps : List Step := [.load "desk.toml", .override "http://admin:pw@gw", .save]
    let steps' : List Step := [.load "desk.toml", .environment none, .save]
    (start.run steps).config.map domain = some "http://admin:pw@gw" ∧
      (start.run steps').config.map domain = some "http://localhost:8080" ∧
      start.history steps = start.history steps' := by
  intro start steps steps'
  refine ⟨?_, ?_, (history_of_shared rfl start).1⟩
  · decide +kernel
  · decide +kernel

/-! ## The server in use -/

/-- The server that a step lets stand in, if it does. -/
def Step.server? : Step → Option String
  | .override server => some server
  | .environment (some server) => if server = "" then none else some server
  | _ => none

/-- Only a load takes away the server that stands in. -/
theorem override_perform {config : Config} (held : session.config = some config) {step : Step}
    (unloaded : ∀ path, step ≠ .load path) :
    ∃ next, (session.perform step).1.config = some next ∧
      next.override = step.server?.or config.override := by
  obtain ⟨files, _⟩ := session
  cases held
  cases step with
  | load path => exact absurd rfl (unloaded path)
  | save => exact ⟨config, rfl, rfl⟩
  | change name =>
    refine ⟨(config.changeProfile files name).1, rfl, ?_⟩
    rcases changeProfile_eq config files name with ⟨-, unchanged⟩ | ⟨known, changed⟩
    · rw [unchanged]
      rfl
    · rw [changed]
      rfl
  | environment server =>
    refine ⟨config.setEnvironment server, rfl, ?_⟩
    cases server with
    | none => rfl
    | some server =>
      rw [setEnvironment, Step.server?]
      split <;> rfl
  | override server => exact ⟨config.setOverride server, rfl, rfl⟩
  | rewrite files => exact ⟨config, rfl, rfl⟩

/-- The server that stands in is the last that was given. -/
theorem override_run {config : Config} (held : session.config = some config) {steps : List Step}
    (unloaded : ∀ path, .load path ∉ steps) :
    ∃ later, (session.run steps).config = some later ∧
      later.override = (steps.filterMap Step.server?).getLast?.or config.override := by
  induction steps generalizing session config with
  | nil => exact ⟨config, held, rfl⟩
  | cons step steps ih =>
    obtain ⟨next, hn, first⟩ := override_perform held
      fun path e => unloaded path (e ▸ List.mem_cons_self)
    obtain ⟨later, hl, last⟩ := ih hn fun path h => unloaded path (List.mem_cons_of_mem _ h)
    refine ⟨later, hl, ?_⟩
    rw [last, first, List.filterMap_cons]
    cases step.server? with
    | none => rfl
    | some server => simp [List.getLast?_cons]

/-- The server in use is the last that was given since the configuration was loaded, and that of the
current profile if none was. -/
theorem domain_run {path : String} {loaded : Config}
    (load : Config.load session.files path = .ok loaded) {steps : List Step}
    (unloaded : ∀ path, .load path ∉ steps) :
    ∃ later profile, (session.run (.load path :: steps)).config = some later ∧
      later.profiles.get? later.current = some profile ∧
      later.domain = (steps.filterMap Step.server?).getLast?.getD profile.server := by
  have held : (session.perform (.load path)).1.config = some loaded := by
    rw [perform, load]
  obtain ⟨later, hl, last⟩ := override_run held unloaded
  refine ⟨later, later.profile, hl, later.profile_mem, ?_⟩
  rw [domain, last, override_load load, Option.or_none]

end Session

end Config

end GatewayDesk
