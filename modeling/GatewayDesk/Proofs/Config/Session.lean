import GatewayDesk.Proofs.Config.Writable

/-!
# Sessions with a configuration

A session holds the files and, once one is loaded, a configuration. Its steps are what a program can
do with a configuration; between them, others may change the files as they like.

* `config_perform`: where the configuration of a session comes from.
* `run_isWritable`: what a session holds can be written.
-/

namespace GatewayDesk

namespace Config

/-- Files, and the configuration that is held. -/
structure Session where
  files : FileTree
  config : Option Config

/-- A change to an unknown profile does nothing; another one is a save of the configuration in which
the profile is current. -/
theorem changeProfile_eq (config : Config) (files : FileTree) (name : String) :
    (config.profiles.get? name = none ∧ config.changeProfile files name =
      (config, ⟨files, .error (.note s!"Profile '{name}' does not exist")⟩)) ∨
    ∃ known : (config.profiles.get? name).isSome,
      config.changeProfile files name =
        ({ config with current := name, current_mem := known },
          ({ config with current := name, current_mem := known } : Config).save files) := by
  by_cases known : (config.profiles.get? name).isSome
  · have chosen :
        config.select? name = some { config with current := name, current_mem := known } := by
      rw [select?, dif_pos known]
    exact .inr ⟨known, by rw [changeProfile, chosen]⟩
  · have unknown : config.select? name = none := by rw [select?, dif_neg known]
    exact .inl ⟨by simpa using known, by rw [changeProfile, unknown]⟩

namespace Session

/-- What can be done in a session. -/
inductive Step where
  | load (path : String)
  | save
  /-- Makes another profile the current one. -/
  | change (name : String)
  /-- Takes the server of the environment. -/
  | environment (server : Option String)
  | override (server : String)
  /-- Someone else changes the files. -/
  | rewrite (files : FileTree)

/-- One step, and how it ends. A configuration that cannot be loaded leaves the one that is held;
without one, there is nothing to do but to load. -/
def perform (session : Session) (step : Step) : Session × Attempt Unit :=
  match step, session.config with
  | .load path, _ =>
    match load session.files path with
    | .ok config => ({ session with config := some config }, .ok ())
    | .error failure => (session, .error failure)
  | .rewrite files, _ => ({ session with files := files }, .ok ())
  | _, none => (session, .ok ())
  | .save, some config =>
    let saved := config.save session.files
    ({ session with files := saved.files }, saved.result)
  | .change name, some config =>
    let (config, saved) := config.changeProfile session.files name
    (⟨saved.files, some config⟩, saved.result)
  | .environment server, some config =>
    ({ session with config := some (config.setEnvironment server) }, .ok ())
  | .override server, some config =>
    ({ session with config := some (config.setOverride server) }, .ok ())

/-- What is left of a session after some steps, whether they fail or not. -/
def run (session : Session) (steps : List Step) : Session :=
  steps.foldl (fun session step => (session.perform step).1) session

/-! ## What is held -/

variable {session : Session}

theorem setEnvironment_keeps (config : Config) (server : Option String) :
    (config.setEnvironment server).profiles = config.profiles ∧
      (config.setEnvironment server).path = config.path := by
  cases server with
  | none => exact ⟨rfl, rfl⟩
  | some server =>
    rw [setEnvironment]
    split <;> exact ⟨rfl, rfl⟩

theorem changeProfile_keeps (config : Config) (files : FileTree) (name : String) :
    (config.changeProfile files name).1.profiles = config.profiles ∧
      (config.changeProfile files name).1.path = config.path := by
  rcases changeProfile_eq config files name with ⟨-, unchanged⟩ | ⟨known, changed⟩
  · rw [unchanged]
    exact ⟨rfl, rfl⟩
  · rw [changed]
    exact ⟨rfl, rfl⟩

/-- A session holds what it has just loaded, or the profiles and the path that it held before. -/
theorem config_perform {step : Step} {config : Config}
    (h : (session.perform step).1.config = some config) :
    (∃ path, step = .load path ∧ load session.files path = .ok config) ∨
      ∃ held, session.config = some held ∧ config.profiles = held.profiles ∧
        config.path = held.path := by
  obtain ⟨files, held⟩ := session
  cases step with
  | load path =>
    rw [perform] at h
    split at h
    case h_1 loaded hl =>
      cases h
      exact .inl ⟨path, rfl, hl⟩
    case h_2 => exact .inr ⟨config, h, rfl, rfl⟩
  | rewrite files => exact .inr ⟨config, h, rfl, rfl⟩
  | save =>
    cases held with
    | none => cases h
    | some held => exact .inr ⟨config, h, rfl, rfl⟩
  | change name =>
    cases held with
    | none => cases h
    | some held =>
      cases h
      exact .inr ⟨held, rfl, changeProfile_keeps held files name⟩
  | environment server =>
    cases held with
    | none => cases h
    | some held =>
      cases h
      exact .inr ⟨held, rfl, setEnvironment_keeps held server⟩
  | override server =>
    cases held with
    | none => cases h
    | some held =>
      cases h
      exact .inr ⟨held, rfl, rfl, rfl⟩

/-! ## What can be written -/

/-- Whether what a session holds can be written. -/
def IsWritable (session : Session) : Prop :=
  ∀ config, session.config = some config → config.IsWritable

theorem perform_isWritable (h : session.IsWritable) (step : Step) :
    (session.perform step).1.IsWritable := by
  intro config held
  rcases config_perform held with ⟨path, -, loaded⟩ | ⟨before, hb, profiles, -⟩
  · exact load_isWritable loaded
  · have kept := h before hb
    rw [Config.IsWritable, ← profiles] at kept
    exact kept

/-- What a session holds can be written, whatever has been done. -/
theorem run_isWritable (h : session.IsWritable) (steps : List Step) :
    (session.run steps).IsWritable := by
  induction steps generalizing session with
  | nil => exact h
  | cons step steps ih => exact ih (perform_isWritable h step)

end Session

end Config

end GatewayDesk
