import GatewayDesk.Device
import GatewayDesk.Failure
import GatewayDesk.Files.Tree
import GatewayDesk.Text.Blank
import GatewayDesk.Yaml.Json

/-!
# Device files

A device file holds one device or a list of devices, as JSON or YAML; the suffix of its name says
which. Standard input has no name, so it is read as JSON first and then as YAML.
-/

namespace GatewayDesk

namespace DeviceFile

/-! ## Formats -/

/-- The format of a file. -/
inductive Format where
  | json
  | yaml
  deriving DecidableEq, Repr

/-- A character with an ASCII capital made small. -/
def lowerAscii (c : Char) : Char := if 'A' ≤ c ∧ c ≤ 'Z' then Char.ofNat (c.toNat + 32) else c

/-- The format of a path: YAML for the suffixes `yaml` and `yml` in any case, else JSON. -/
def Format.ofPath (path : String) : Format :=
  match (Path.suffix? path).map (·.map lowerAscii) with
  | some ['y', 'a', 'm', 'l'] => .yaml
  | some ['y', 'm', 'l'] => .yaml
  | _ => .json

/-! ## Texts -/

/-- A YAML text as one device. -/
def readYaml (text : String) : Except Yaml.Error Device :=
  (Yaml.readObject text).map Device.ofMembers

/-- A YAML text as a list of devices. -/
def readYamlList (text : String) : Except Yaml.Error (List Device) :=
  (Yaml.readObjects text).map fun objects => objects.map Device.ofMembers

/-- A text as one device. -/
def parse (text : String) (format : Format) : Attempt Device :=
  Attempt.during "Expected a single device object" <|
    match format with
    | .json => Attempt.ofJson (Device.read text)
    | .yaml => Attempt.ofYaml (readYaml text)

/-- A text as a list of devices. -/
def parseList (text : String) (format : Format) : Attempt (List Device) :=
  Attempt.during "Expected a list of devices" <|
    match format with
    | .json => Attempt.ofJson (Device.readList text)
    | .yaml => Attempt.ofYaml (readYamlList text)

/-- A text of unknown format as one device: JSON, or else YAML. -/
def parseAny (text : String) : Attempt Device :=
  match Device.read text with
  | .ok device => .ok device
  | .error notJson =>
    match readYaml text with
    | .ok device => .ok device
    | .error notYaml =>
      .error (.note s!"not valid JSON ({notJson.message}) nor YAML ({notYaml.message})")

/-! ## Files and standard input -/

/-- The source that stands for standard input. -/
def standardInput : String := "-"

/-- The text of a file. -/
def readFile (files : FileTree) (path : String) : Attempt String :=
  Attempt.during s!"Failed to read {path}" (Attempt.ofFile (files.readText path))

/-- The device that standard input holds. -/
def readInput (input : ByteArray) : Attempt Device := do
  let text ← Attempt.during "Failed to read device from stdin" <|
    Attempt.ofFile ((Utf8.decode input).mapError .badText)
  if Text.isBlank text then throw (.note "No device given on stdin")
  else Attempt.during "Expected a single device object on stdin" (parseAny text)

/-- The device that a file or standard input holds. -/
def read (files : FileTree) (input : ByteArray) (source : String) : Attempt Device :=
  if source = standardInput then readInput input
  else do
    let text ← readFile files source
    Attempt.during s!"Invalid device file {source}" (parse text (.ofPath source))

/-- The devices that a file holds. -/
def readList (files : FileTree) (path : String) : Attempt (List Device) := do
  let text ← readFile files path
  Attempt.during s!"Invalid device list {path}" (parseList text (.ofPath path))

end DeviceFile

end GatewayDesk
