import GatewayDesk.Proofs.Config.Session
import Mathlib.Algebra.Group.Nat.Defs

/-!
# What a session holds

A configuration that a session holds has come from a file, or from the place where no file was, and
has been changed since. Whatever was done, its current profile is one of its profiles, and its
profiles are those that were loaded.

* `load_eq_ok`: what can be loaded from a path.
* `config_perform_of_held`: what one step does to a configuration that is held.
* `config_run`: what a session holds after any steps, where it comes from, and what stays.
-/

namespace GatewayDesk

namespace Config

/-- A configuration is loaded where there is no file, and where a text names one of its profiles as
the current one. -/
theorem load_eq_ok {files : FileTree} {path : String} {config : Config} :
    load files path = .ok config ↔
      (files.readText path = .error .notFound ∧ config = initial path) ∨
      ∃ text, files.readText path = .ok text ∧
        ofText text = .ok (config.current, config.profiles) ∧
        config.override = none ∧ config.path = path := by
  constructor
  · intro h
    unfold load at h
    split at h
    case h_1 text ht =>
      obtain ⟨⟨current, profiles⟩, hr, h⟩ := Except.bind_eq_ok.1 h
      have read := Except.mapError_eq_ok.1 (Except.mapError_eq_ok.1 hr)
      dsimp only at h
      split at h
      case isTrue =>
        cases h
        exact .inr ⟨text, ht, read, rfl, rfl⟩
      case isFalse => cases h
    case h_2 missing =>
      cases h
      exact .inl ⟨missing, rfl⟩
    case h_3 => cases h
  · rintro (⟨missing, rfl⟩ | ⟨text, ht, read, no, rfl⟩)
    · simp only [load, missing]
    · obtain ⟨current, profiles, override, path, known⟩ := config
      obtain rfl : override = none := no
      rw [load, ht]
      dsimp only
      rw [ofTextAt, read]
      show dite _ _ _ = _
      rw [dif_pos known]
      rfl

/-- A change makes the named profile current, if there is one of that name. -/
theorem current_changeProfile (config : Config) (files : FileTree) (name : String) :
    (config.changeProfile files name).1.current =
      if (config.profiles.get? name).isSome then name else config.current := by
  rcases changeProfile_eq config files name with ⟨missing, unchanged⟩ | ⟨known, changed⟩
  · rw [unchanged, if_neg (by simp [missing])]
  · rw [changed, if_pos known]

theorem current_setEnvironment (config : Config) (server : Option String) :
    (config.setEnvironment server).current = config.current := by
  cases server with
  | none => rfl
  | some server =>
    rw [setEnvironment]
    split <;> rfl

namespace Session

variable {session : Session} {config : Config}

/-! ## Steps -/

/-- A configuration that is held stays, but for what a step changes: one that is loaded takes its
place, and only a change of the profile makes another profile current. -/
theorem config_perform_of_held (held : session.config = some config) (step : Step) :
    ∃ next, (session.perform step).1.config = some next ∧
      ((∃ path, step = .load path ∧ load session.files path = .ok next) ∨
        next.profiles = config.profiles ∧
          (next.current = config.current ∨ step = .change next.current)) := by
  obtain ⟨files, _⟩ := session
  cases held
  cases step with
  | load path =>
    rw [perform]
    split
    case h_1 loaded hl => exact ⟨loaded, rfl, .inl ⟨path, rfl, hl⟩⟩
    case h_2 => exact ⟨config, rfl, .inr ⟨rfl, .inl rfl⟩⟩
  | save => exact ⟨config, rfl, .inr ⟨rfl, .inl rfl⟩⟩
  | change name =>
    refine ⟨(config.changeProfile files name).1, rfl,
      .inr ⟨(changeProfile_keeps config files name).1, ?_⟩⟩
    rw [current_changeProfile]
    split
    · exact .inr rfl
    · exact .inl rfl
  | environment server =>
    exact ⟨_, rfl, .inr ⟨(setEnvironment_keeps config server).1,
      .inl (current_setEnvironment config server)⟩⟩
  | override server => exact ⟨_, rfl, .inr ⟨rfl, .inl rfl⟩⟩
  | rewrite files => exact ⟨config, rfl, .inr ⟨rfl, .inl rfl⟩⟩

/-! ## Runs -/

theorem run_append (session : Session) (before after : List Step) :
    session.run (before ++ after) = (session.run before).run after := by
  simp [run]

/-- Between loads, the profiles stay. -/
theorem profiles_run (held : session.config = some config) {steps : List Step}
    (unloaded : ∀ path, .load path ∉ steps) :
    ∃ later, (session.run steps).config = some later ∧ later.profiles = config.profiles := by
  induction steps generalizing session config with
  | nil => exact ⟨config, held, rfl⟩
  | cons step steps ih =>
    obtain ⟨next, hn, ⟨path, rfl, -⟩ | ⟨profiles, -⟩⟩ := config_perform_of_held held step
    · exact absurd List.mem_cons_self (unloaded path)
    · obtain ⟨later, hl, same⟩ := ih hn fun path h => unloaded path (List.mem_cons_of_mem _ h)
      exact ⟨later, hl, same.trans profiles⟩

/-- What a session holds was loaded by one of its steps, or was held from its start. Its profiles
are those of that time, and its current profile is the one of that time or one changed to since. -/
theorem origin_run {steps : List Step} (held : (session.run steps).config = some config) :
    (∃ before path after loaded, steps = before ++ .load path :: after ∧
      load (session.run before).files path = .ok loaded ∧ config.profiles = loaded.profiles ∧
      (config.current = loaded.current ∨ .change config.current ∈ after)) ∨
    ∃ start, session.config = some start ∧ config.profiles = start.profiles ∧
      (config.current = start.current ∨ .change config.current ∈ steps) := by
  induction steps generalizing session with
  | nil => exact .inr ⟨config, held, rfl, .inl rfl⟩
  | cons step steps ih =>
    rcases ih held with
      ⟨before, path, after, loaded, rfl, hl, rest⟩ | ⟨second, hs, profiles, current⟩
    · exact .inl ⟨step :: before, path, after, loaded, rfl, hl, rest⟩
    · -- It was held after the first step, which loaded it or kept it.
      cases hc : session.config with
      | none =>
        rcases config_perform hs with ⟨path, rfl, hl⟩ | ⟨first, hf, -⟩
        · exact .inl ⟨[], path, steps, second, rfl, hl, profiles, current⟩
        · rw [hc] at hf
          cases hf
      | some first =>
        obtain ⟨next, hn, came⟩ := config_perform_of_held hc step
        obtain rfl : next = second := Option.some.inj (hn.symm.trans hs)
        rcases came with ⟨path, rfl, hl⟩ | ⟨kept, still⟩
        · exact .inl ⟨[], path, steps, next, rfl, hl, profiles, current⟩
        · refine .inr ⟨first, rfl, profiles.trans kept, ?_⟩
          rcases current with same | changed
          · rw [← same] at still
            refine still.imp_right ?_
            rintro rfl
            exact List.mem_cons_self
          · exact .inr (List.mem_cons_of_mem _ changed)

/-- Whatever was done in a session, and whatever others did to the files, a configuration that it
holds has a current profile, from which the server, the timeout and the display follow. All timeouts
have 63 bits. The profiles are those of the text that was loaded, or the initial ones where there
was none, the current profile is one that the text named or one changed to since, and until the next
load no step adds, drops or changes a profile. -/
theorem config_run {steps : List Step} (fresh : session.config = none)
    (held : (session.run steps).config = some config) :
    (∃ profile, config.profiles.get? config.current = some profile ∧
      config.domain = config.override.getD profile.server ∧ config.timeout = profile.timeout ∧
      ∀ painting, config.display painting =
        Paint.apply painting (.boldColor (Color.ofName profile.color)) config.current ++ " " ++
          Paint.apply painting (.color (Color.ofName profile.color)) config.domain) ∧
    (∀ entry ∈ config.profiles.entries, ∀ seconds, entry.2.timeout = some seconds →
      seconds.val ≤ 2 ^ 63 - 1) ∧
    (∃ before path after current profiles, steps = before ++ .load path :: after ∧
      ((session.run before).files.readText path = .error .notFound ∧
          current = (initial path).current ∧ profiles = (initial path).profiles ∨
        ∃ text, (session.run before).files.readText path = .ok text ∧
          ofText text = .ok (current, profiles) ∧ (profiles.get? current).isSome) ∧
      config.profiles = profiles ∧
      (config.current = current ∨ .change config.current ∈ after)) ∧
    ∀ more, (∀ path, .load path ∉ more) →
      ∃ later, (session.run (steps ++ more)).config = some later ∧
        later.profiles = config.profiles := by
  refine ⟨⟨config.profile, config.profile_mem, rfl, rfl, fun _ => rfl⟩, ?_, ?_, ?_⟩
  · have writable : config.IsWritable := by
      refine run_isWritable (fun config held => ?_) steps config held
      rw [fresh] at held
      cases held
    intro entry he seconds hs
    exact Nat.le_pred_of_lt (writable entry he seconds hs)
  · rcases origin_run held with
      ⟨before, path, after, loaded, split, hl, profiles, current⟩ | ⟨start, hs, -⟩
    · refine ⟨before, path, after, loaded.current, loaded.profiles, split, ?_, profiles, current⟩
      rcases load_eq_ok.1 hl with ⟨missing, rfl⟩ | ⟨text, ht, read, -, -⟩
      · exact .inl ⟨missing, rfl, rfl⟩
      · exact .inr ⟨text, ht, read, loaded.current_mem⟩
    · rw [fresh] at hs
      cases hs
  · intro more unloaded
    rw [run_append]
    exact profiles_run held unloaded

/-- Files with two profiles, where nothing can be saved: a directory is in the way. -/
def blocked : FileTree :=
  let text := "current_profile = \"plant\"\n" ++
    "[profile.plant]\nserver = \"http://plant\"\n" ++
    "[profile.lab]\nserver = \"http://lab\"\ntimeout_secs = 9223372036854775807\n"
  ⟨[(["desk.toml"], .file text.toUTF8), (["desk.toml.save"], .directory)], []⟩

/-- A change of the profile that cannot be saved, while another server stands in. -/
theorem config_run_blocked :
    ∃ config, (run ⟨blocked, none⟩
        [.load "desk.toml", .override "http://gw", .change "lab", .change "attic"]).config =
        some config ∧
      config.current = "lab" ∧
      ∃ later, (run ⟨blocked, none⟩
        ([.load "desk.toml", .override "http://gw", .change "lab", .change "attic"] ++
          [.rewrite ⟨[], []⟩, .change "plant"])).config = some later ∧
        later.profiles = config.profiles := by
  have some : (run ⟨blocked, none⟩
      [.load "desk.toml", .override "http://gw", .change "lab", .change "attic"]).config.map
        (·.current) = some "lab" := by
    decide +kernel
  obtain ⟨config, held, current⟩ := Option.map_eq_some_iff.1 some
  exact ⟨config, held, current, (config_run rfl held).2.2.2 _ (by simp)⟩

end Session

end Config

end GatewayDesk
