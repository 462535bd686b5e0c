import GatewayDesk.Config.Store
import GatewayDesk.Proofs.Config.RoundTrip
import GatewayDesk.Proofs.Files.Growth

/-!
# Saves that fail

A save makes the directories of its path, writes beside the path and moves what it has written
there. Whichever of these fails, what stood at the path still stands there.

* `Saves`: what can become of the files in a save, step by step.
* `Stable`: paths whose directories can be made without a change of where they lead.
* `spares_save`: what a save leaves as it was.
-/

namespace GatewayDesk

namespace Config

open FileTree

variable {config : Config} {files made : FileTree} {path : String}

/-! ## The steps of a save -/

/-- Whether a location is above a path: it is passed on the way to what stands before the last
piece of the path. -/
def IsAbove (files : FileTree) (path : String) (l : Location) : Prop :=
  ∃ above, above <+: (Path.trimmed (Path.pieces path)).dropLast ∧
    Passes (files.origin path) (Path.turns above) l

/-- To save at a path makes directories above it. -/
theorem grows_makeHome (files : FileTree) (path : String) :
    Grows files (makeHome files path).files (IsAbove files path) := by
  unfold makeHome
  cases hp : Path.parent? path with
  | none => exact .refl files _
  | some directory =>
    dsimp only
    by_cases here : directory = ""
    · subst here
      rw [makeDirectories, makeDirectoriesUpTo_empty]
      exact .refl files _
    · exact (grows_makeDirectories files directory).mono fun l hl => passes_of_parent? hp here hl

/-- Whether the sibling of a path is another name in the directory of the path, which is there. -/
structure Beside (made : FileTree) (path : String) (front : List (List Char))
    (name other : List Char) : Prop where
  names : Path.Names path front name
  reaches : made.Reaches (sibling path) front other
  apart : other ≠ name
  free : made.at? (made.place front other) ≠ some .directory

namespace Beside

variable {front : List (List Char)} {name other : List Char}

theorem spot_sibling (h : Beside made path front name other) :
    made.spot (sibling path) = made.place front other :=
  spot_of_names h.reaches.leads.names made

theorem spot_path (h : Beside made path front name other) :
    made.spot path = made.place front name := spot_of_names h.names made

theorem spot_ne (h : Beside made path front name other) :
    made.spot path ≠ made.spot (sibling path) := by
  rw [h.spot_sibling, h.spot_path]
  exact fun e => h.apart (place_injective e).symm

/-- What is written beside a path does not change where the path leads. -/
theorem locate_put (h : Beside made path front name other) (contents : ByteArray) :
    (made.put (made.place front other) (.file contents)).locate path = made.locate path :=
  h.reaches.locate_put h.names h.apart h.free contents

end Beside

/-- A sibling that is written stands beside its path. -/
theorem beside_of_write {contents : ByteArray} {written : FileTree}
    (h : made.write (sibling path) contents = .ok written) :
    ∃ front name other, Beside made path front name other ∧
      written = made.put (made.place front other) (.file contents) := by
  obtain ⟨front, other, reaches, free, rfl⟩ := reaches_of_write h
  cases hn : Path.fileName? path with
  | none =>
    -- Without a file name the sibling is the path itself, which cannot be written.
    have := reaches.leads.fileName?
    rw [sibling_eq_self hn, hn] at this
    cases this
  | some name =>
    obtain ⟨front', names⟩ := Path.Names.of_fileName? hn
    rcases sibling_of_names names with ⟨stem, -, leads, apart⟩ | ⟨-, nameless⟩
    · obtain ⟨rfl, rfl⟩ := reaches.leads.names.unique leads.names
      exact ⟨front, name, _, ⟨names, reaches, apart, free⟩, rfl⟩
    · cases reaches.leads.fileName?.symm.trans nameless

/-- What can become of files when a configuration is saved at a path whose directories have been
made: the sibling is written, and it is moved. -/
inductive Saves (path : String) (made : FileTree) : FileTree.Outcome Failure → Prop where
  | unwritten (failure : Failure) : Saves path made ⟨made, .error failure⟩
  | unmoved {front : List (List Char)} {name other : List Char}
    (beside : Beside made path front name other) (contents : ByteArray) (failure : Failure) :
    Saves path made ⟨made.put (made.place front other) (.file contents), .error failure⟩
  | moved {front : List (List Char)} {name other : List Char}
    (beside : Beside made path front name other) (contents moved : ByteArray) :
    Saves path made ⟨((made.put (made.place front other) (.file contents)).remove
      (made.place front other)).put (made.place front name) (.file moved), .ok ()⟩

theorem saves_replace (config : Config) (made : FileTree) :
    Saves config.path made (config.replace made) := by
  unfold replace
  cases config.text with
  | error e => exact .unwritten _
  | ok text =>
    dsimp only
    cases hw : made.write (sibling config.path) text.toUTF8 with
    | error fault => exact .unwritten _
    | ok written =>
      obtain ⟨front, name, other, beside, rfl⟩ := beside_of_write hw
      dsimp only
      generalize hm : made.put (made.place front other) (.file text.toUTF8) = written
      cases hr : written.rename (sibling config.path) config.path with
      | error fault =>
        subst hm
        exact .unmoved beside _ _
      | ok after =>
        obtain ⟨-, front', name', target⟩ := leads_of_rename hr
        obtain ⟨rfl, rfl⟩ := beside.names.unique target.names
        obtain ⟨moved, -, -, rfl, -⟩ :=
          rename_eq_ok beside.reaches.leads target beside.apart hr
        subst hm
        exact .moved beside _ moved

theorem saves_save (config : Config) (files : FileTree) :
    Saves config.path (makeHome files config.path).files (config.save files) := by
  unfold save
  rcases makeHome files config.path with ⟨made, failure | ⟨⟨⟩⟩⟩
  · exact .unwritten failure
  · exact saves_replace config made

/-! ## What stays -/

/-- Whether the directories of a path can be made without a change of where it leads: none is
missing, or what is missing of the path is names. -/
def Stable (files : FileTree) (path : String) : Prop :=
  (makeHome files path).files = files ∨ files.Sound ∧ files.Settled path

/-- Whether a location has kept what it had; where nothing was, a directory may be new if it is
above a path. -/
def Kept (path : String) (before after : FileTree) (l : Location) : Prop :=
  after.at? l = before.at? l ∨
    IsAbove before path l ∧ before.at? l = none ∧ after.at? l = some .directory

/-- What a save at a path leaves as it was. -/
structure Spares (path : String) (before : FileTree) (saved : FileTree.Outcome Failure) : Prop where
  /-- Everything but the sibling of the path is kept, and but the path if the save is done. -/
  entries : ∀ l, l ≠ before.spot (sibling path) → (saved.result = .ok () → l ≠ before.spot path) →
    Kept path before saved.files l
  /-- If the save fails, the path is kept. -/
  own : (∃ failure, saved.result = .error failure) → Kept path before saved.files (before.spot path)
  /-- If the save fails, the path stands for what it stood for, and is loaded as it was. -/
  stable : (∃ failure, saved.result = .error failure) → Stable before path →
    saved.files.at? (before.spot path) = before.at? (before.spot path) ∧
      saved.files.readBytes path = before.readBytes path ∧
      load saved.files path = load before path

/-- The directories of a path are made without a change of what it stands for. -/
theorem locate_makeHome (h : Stable files path) :
    (makeHome files path).files.at? (files.spot path) = files.at? (files.spot path) ∧
      (makeHome files path).files.locate path = files.locate path := by
  rcases h with same | ⟨sound, settled⟩
  · rw [same]
    exact ⟨rfl, rfl⟩
  · have grows := grows_makeHome files path
    have entry :
        (makeHome files path).files.at? (files.spot path) = files.at? (files.spot path) := by
      rcases grows.entries (files.spot path) with same | ⟨⟨above, part, passes⟩, missing, -⟩
      · exact same
      · exact absurd rfl (settled.spot_ne missing part passes)
    exact ⟨entry, grows.locate_eq sound settled entry⟩

/-- What a path stands for is read as before, and loaded as before. -/
theorem load_congr {before after : FileTree}
    (entry : after.at? (before.spot path) = before.at? (before.spot path))
    (locate : after.locate path = before.locate path) :
    after.readBytes path = before.readBytes path ∧ load after path = load before path := by
  have bytes : after.readBytes path = before.readBytes path := by
    rw [readBytes, readBytes, locate]
    cases hl : before.locate path with
    | error fault => rfl
    | ok l =>
      obtain rfl := spot_of_locate hl
      simp only [bind, Except.bind, entry]
  refine ⟨bytes, ?_⟩
  rw [load, load, readText, readText, bytes]

/-- What is added before a save does not change what the save spares. -/
theorem Saves.spares {before : FileTree} {saved : FileTree.Outcome Failure}
    (h : Saves path made saved) (grows : Grows before made (IsAbove before path))
    (stable : Stable before path → made.at? (before.spot path) = before.at? (before.spot path) ∧
      made.locate path = before.locate path) : Spares path before saved := by
  have kept : ∀ l, Kept path before made l := grows.entries
  cases h with
  | unwritten failure =>
    refine ⟨fun l _ _ => kept l, fun _ => kept _, fun _ hs => ?_⟩
    obtain ⟨entry, locate⟩ := stable hs
    exact ⟨entry, load_congr entry locate⟩
  | @unmoved front name other beside contents failure =>
    have same {l : Location} (hl : l ≠ made.spot (sibling path)) :
        (made.put (made.place front other) (.file contents)).at? l = made.at? l :=
      at?_put_of_ne (beside.spot_sibling ▸ hl)
    have kept' {l : Location} (hl : l ≠ made.spot (sibling path)) :
        Kept path before (made.put (made.place front other) (.file contents)) l := by
      rw [Kept, same hl]
      exact kept l
    have apart : before.spot path ≠ made.spot (sibling path) :=
      grows.spot_eq path ▸ beside.spot_ne
    refine ⟨fun l hl _ => kept' (grows.spot_eq _ ▸ hl), fun _ => kept' apart, fun _ hs => ?_⟩
    obtain ⟨entry, locate⟩ := stable hs
    have entry' := (same apart).trans entry
    exact ⟨entry', load_congr entry' ((beside.locate_put contents).trans locate)⟩
  | moved beside contents moved =>
    refine ⟨fun l hl ho => ?_, fun ⟨_, failed⟩ => (nomatch failed),
      fun ⟨_, failed⟩ => (nomatch failed)⟩
    rw [← grows.spot_eq, beside.spot_sibling] at hl
    rw [← grows.spot_eq, beside.spot_path] at ho
    rw [Kept, at?_put_of_ne (ho rfl), at?_remove_of_ne hl, at?_put_of_ne hl]
    exact kept l

/-- A save leaves what it does not write, and what the path stands for unless it is done. -/
theorem spares_save (config : Config) (files : FileTree) :
    Spares config.path files (config.save files) :=
  (saves_save config files).spares (grows_makeHome files config.path) locate_makeHome

/-! ## Saves and changes -/

/-- A change of the profile leaves what a save leaves. -/
theorem spares_changeProfile (config : Config) (files : FileTree) (name : String) :
    Spares config.path files (config.changeProfile files name).2 := by
  rcases changeProfile_eq config files name with ⟨-, unknown⟩ | ⟨known, changed⟩
  · rw [unknown]
    exact ⟨fun _ _ _ => .inl rfl, fun _ => .inl rfl, fun _ _ => ⟨rfl, rfl, rfl⟩⟩
  · rw [changed]
    exact spares_save { config with current := name, current_mem := known } files

/-- A save that fails, at whichever step, leaves what was stored, and so does a change of the
profile. All that it may leave behind is directories above the path and the sibling of the path, so
the path is loaded as before unless new directories change where it leads. An unknown profile
changes nothing; a known one is current from then on, saved or not. -/
theorem save_failed (config : Config) (files : FileTree) (name : String) :
    Spares config.path files (config.save files) ∧
    Spares config.path files (config.changeProfile files name).2 ∧
    (config.profiles.get? name = none → config.changeProfile files name =
      (config, ⟨files, .error (.note s!"Profile '{name}' does not exist")⟩)) ∧
    ∀ known : (config.profiles.get? name).isSome, (config.changeProfile files name).1 =
      { config with current := name, current_mem := known } := by
  refine ⟨spares_save config files, spares_changeProfile config files name, ?_, ?_⟩
  · intro missing
    rcases changeProfile_eq config files name with ⟨-, unknown⟩ | ⟨known, -⟩
    · exact unknown
    · rw [missing] at known
      cases known
  · intro known
    rcases changeProfile_eq config files name with ⟨missing, -⟩ | ⟨_, changed⟩
    · rw [missing] at known
      cases known
    · rw [changed]

/-- A stored configuration whose sibling is a directory, so that no other profile can be stored. -/
theorem save_failed_stored :
    let text := "current_profile = \"plant\"\n[profile.plant]\nserver = \"http://plant\"\n" ++
      "[profile.lab]\nserver = \"http://lab\"\ntimeout_secs = 5\n"
    let files : FileTree :=
      ⟨[(["config.toml"], .file text.toUTF8), (["config.toml.save"], .directory)], []⟩
    ∃ config, load files "config.toml" = .ok config ∧ config.current = "plant" ∧
      (∃ failure, (config.changeProfile files "lab").2.result = .error failure) ∧
      (config.changeProfile files "lab").1.current = "lab" ∧
      (config.changeProfile files "lab").2.files.readBytes "config.toml" = .ok text.toUTF8 ∧
      load (config.changeProfile files "lab").2.files "config.toml" = .ok config := by
  intro text files
  have shown : (load files "config.toml").toOption.map (fun config =>
      (config.path, config.current, (config.profiles.get? "lab").isSome,
        (config.changeProfile files "lab").2.result.isOk)) =
      some ("config.toml", "plant", true, false) := by decide +kernel
  cases found : load files "config.toml" with
  | error failure =>
    rw [found] at shown
    cases shown
  | ok config =>
    rw [found] at shown
    simp only [Except.toOption, Option.map_some, Option.some.injEq, Prod.mk.injEq] at shown
    obtain ⟨path, current, known, undone⟩ := shown
    have failed : ∃ failure, (config.changeProfile files "lab").2.result = .error failure := by
      cases result : (config.changeProfile files "lab").2.result with
      | error failure => exact ⟨failure, rfl⟩
      | ok =>
        rw [result] at undone
        cases undone
    obtain ⟨-, spares, -, changed⟩ := save_failed config files "lab"
    rw [path] at spares
    -- No directory has to be made for a path without one.
    have stable : Stable files "config.toml" := .inl rfl
    obtain ⟨-, bytes, loads⟩ := spares.stable failed stable
    refine ⟨config, rfl, current, failed, by rw [changed known], ?_, loads.trans found⟩
    rw [bytes]
    decide +kernel

/-- The directories of a path stay when the save fails, so one that goes back up from a directory
that was missing can lead to another file afterwards. -/
theorem load_save_detour :
    let text := "current_profile = \"plant\"\n\n[profile.plant]\nserver = \"http://plant\"\n"
    let plant : FileTree :=
      ⟨[(["config.toml"], .file text.toUTF8), (["config.toml.save"], .directory)], []⟩
    let path := "new/../config.toml"
    let saved := (initial path).save plant
    saved.result.toOption = none ∧
      (load plant path).toOption.map current = some "local" ∧
      (load saved.files path).toOption.map current = some "plant" := by
  refine ⟨?_, ?_, ?_⟩
  all_goals decide +kernel

end Config

end GatewayDesk
