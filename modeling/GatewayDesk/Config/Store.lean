import GatewayDesk.Config.Text
import GatewayDesk.Failure
import GatewayDesk.Files.Tree

/-!
# Where configurations are kept

`Config.load` reads the configuration of a path, and without a file there it is the initial one.
`Config.save` writes a sibling file first and then moves it to the path, so that a failure leaves
the old file as it was.
-/

namespace GatewayDesk

namespace Config

/-! ## Loading -/

/-- The configuration that a text spells, to be saved at a path. -/
def ofTextAt (path : String) (text : String) : Attempt Config := do
  let (current, profiles) ←
    Attempt.during s!"Failed to parse {path}" (Attempt.ofToml (ofText text))
  if h : (profiles.get? current).isSome then
    return ⟨current, profiles, none, path, h⟩
  else throw (.note s!"Current profile '{current}' is not defined in {path}")

/-- Whether there is no file at a path. -/
def isMissing (files : FileTree) (path : String) : Bool :=
  match files.readText path with
  | .error .notFound => true
  | _ => false

/-- The configuration of a path. -/
def load (files : FileTree) (path : String) : Attempt Config :=
  match files.readText path with
  | .ok text => ofTextAt path text
  | .error .notFound => .ok (initial path)
  | .error fault => Attempt.during s!"Failed to read {path}" (Attempt.ofFile (.error fault))

/-! ## Saving -/

/-- The sibling of a path that is written first. -/
def sibling (path : String) : String := Path.withSuffix path "toml.save".toList

/-- Makes the directory that holds a path. -/
def makeHome (files : FileTree) (path : String) : FileTree.Outcome Failure :=
  match Path.parent? path with
  | none => ⟨files, .ok ()⟩
  | some directory =>
    let made := files.makeDirectories directory
    ⟨made.files,
      Attempt.during s!"Failed to create {directory}" (Attempt.ofFile made.result)⟩

/-- Writes the text of a configuration to the sibling and moves that to the path. -/
def replace (config : Config) (files : FileTree) : FileTree.Outcome Failure :=
  match config.text with
  | .error e => ⟨files, Attempt.ofToml (.error e)⟩
  | .ok text =>
    match files.write (sibling config.path) text.toUTF8 with
    | .error fault => ⟨files, Attempt.ofFile (.error fault)⟩
    | .ok files =>
      match files.rename (sibling config.path) config.path with
      | .error fault => ⟨files, Attempt.ofFile (.error fault)⟩
      | .ok files => ⟨files, .ok ()⟩

/-- Saves a configuration. -/
def save (config : Config) (files : FileTree) : FileTree.Outcome Failure :=
  match makeHome files config.path with
  | ⟨files, .ok ()⟩ => config.replace files
  | failed => failed

/-- Makes another profile the current one, and saves that; the configuration changes even where it
is not saved. -/
def changeProfile (config : Config) (files : FileTree) (name : String) :
    Config × FileTree.Outcome Failure :=
  match config.select? name with
  | none => (config, ⟨files, .error (.note s!"Profile '{name}' does not exist")⟩)
  | some config => (config, config.save files)

end Config

end GatewayDesk
