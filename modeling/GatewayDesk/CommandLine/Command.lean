import GatewayDesk.CommandLine.Reader

/-!
# The commands of the program

`program` is the form of the program, and an `Order` is what a command line of that form asks for:
a command, and the server that stands in for all others.
-/

namespace GatewayDesk

namespace CommandLine

/-! ## Commands -/

/-- What can be done with the devices of a gateway. -/
inductive DeviceCommand where
  | list (asJson : Bool)
  | create (source : String)
  | importAll (path : String)
  | update (id source : String)
  /-- Removes devices, with or without a question first. -/
  | remove (ids : List String) (unasked : Bool)
  deriving DecidableEq, Repr

/-- The shells that complete command lines. -/
inductive Shell where
  | bash
  | elvish
  | fish
  | powershell
  | zsh
  deriving DecidableEq, Repr

/-- What the program can do. -/
inductive Command where
  /-- Shows the profiles, or makes another one current. -/
  | profile (name : Option String)
  | devices (command : DeviceCommand)
  | completion (shell : Shell)
  deriving DecidableEq, Repr

/-- What a command line asks for. -/
structure Order where
  /-- The server that stands in for all others. -/
  server : Option String
  command : Command
  deriving DecidableEq, Repr

/-- The shells by name. -/
def Shell.names : List (String × Shell) :=
  [("bash", .bash), ("elvish", .elvish), ("fish", .fish), ("powershell", .powershell),
    ("zsh", .zsh)]

/-! ## The form of the program -/

/-- The name of the program. -/
def programName : String := "se"

/-- The version of the program. -/
def programVersion : String := "0.1.0"

namespace Form

/-- The switch that names a server. -/
def server : Switch :=
  ⟨"server", none, "URL", "Gateway base URL, overrides the profile and SENSOR_EDGE_SERVER"⟩

/-- The switch that asks for help. -/
def helpSwitch : Switch := ⟨"help", 'h', none, "Print help"⟩

/-- The switch that asks for the version. -/
def versionSwitch : Switch := ⟨"version", 'V', none, "Print version"⟩

/-- The command that asks for help. -/
def helpCommand : Form where
  name := "help"
  aliases := []
  about := "Print this message or the help of the given subcommand(s)"
  switches := []
  places := [⟨"COMMAND", "Print help for the subcommand(s)", false, true, .text⟩]
  children := []

/-- A command without others below it. -/
def leaf (name : String) (aliases : List String) (about : String) (switches : List Switch)
    (places : List Place) : Form :=
  ⟨name, aliases, about, switches ++ [helpSwitch], places, []⟩

/-- The place of a file. -/
def file (filling : Filling) : Place := ⟨"FILE", "", true, false, filling⟩

/-- The command that lists devices. -/
def list : Form :=
  leaf "ls" ["list"] "List the devices registered on the gateway"
    [⟨"json", 'j', none, ""⟩, server] []

/-- The command that creates a device. -/
def create : Form :=
  leaf "create" [] "Create a device from a JSON or YAML file (\x60-\x60 reads stdin)" [server]
    [file .text]

/-- The command that creates all devices of a file. -/
def importAll : Form :=
  leaf "import" [] "Create every device listed in a JSON or YAML file" [server]
    [file .path]

/-- The command that replaces a device. -/
def update : Form :=
  leaf "update" []
    "Replace a device with the contents of a JSON or YAML file (\x60-\x60 reads stdin)" [server]
    [⟨"ID", "Device ID, used verbatim in the request path", true, false, .text⟩, file .text]

/-- The command that removes devices. -/
def remove : Form :=
  leaf "rm" ["delete"] "Remove devices"
    [server, ⟨"yes", 'y', none, "Skip confirmation prompt"⟩]
    [⟨"IDS", "Device IDs, used verbatim in the request path", true, true, .text⟩]

/-- The commands for devices. -/
def devices : Form where
  name := "devices"
  aliases := ["device"]
  about := "Manage the devices registered on the gateway"
  switches := [server, helpSwitch]
  places := []
  children := [list, create, importAll, update, remove, helpCommand]

/-- The command for profiles. -/
def profile : Form :=
  leaf "profile" [] "Show or change the current profile" [server]
    [⟨"PROFILE", "", false, false, .text⟩]

/-- The command for completion scripts. -/
def completion : Form :=
  leaf "completion" [] "Generate shell completion scripts" [server]
    [⟨"SHELL", "The shell to generate the completions for", true, false,
      .oneOf (Shell.names.map Prod.fst)⟩]

/-- The form of the program. -/
def program : Form where
  name := programName
  aliases := []
  about := "Sensor Edge CLI - gateway device management"
  switches := [server, helpSwitch, versionSwitch]
  places := []
  children := [profile, devices, completion, helpCommand]

end Form

/-! ## Orders -/

/-- The command that the words of a sentence spell. -/
def Command.ofSentence? (sentence : Sentence) : Option Command :=
  match sentence.commands, sentence.words with
  | ["profile"], [] => some (.profile none)
  | ["profile"], [name] => some (.profile (some name))
  | ["completion"], [shell] => (Shell.names.lookup shell).map .completion
  | ["devices", "ls"], [] => some (.devices (.list (sentence.has "json")))
  | ["devices", "create"], [source] => some (.devices (.create source))
  | ["devices", "import"], [path] => some (.devices (.importAll path))
  | ["devices", "update"], [id, source] => some (.devices (.update id source))
  | ["devices", "rm"], ids => some (.devices (.remove ids (sentence.has "yes")))
  | _, _ => none

/-- What a command line is meant to do. -/
inductive Intent where
  | run (order : Order)
  /-- To tell a text and do nothing else. -/
  | tell (text : String)
  /-- It does not fit the form of the program. -/
  | refuse (error : UsageError)
  deriving DecidableEq, Repr

/-- What a reading that has ended is meant to do. -/
def Intent.ofReading : Except Stop Sentence → Intent
  | .ok sentence =>
    match Command.ofSentence? sentence with
    | some command => .run ⟨sentence.value? "server", command⟩
    | none => .refuse .noCommand
  | .error (.help form path) => .tell (form.help path)
  | .error .version => .tell s!"{programName} {programVersion}\n"
  | .error (.error error) => .refuse error

/-- What the words of a command line are meant to do. -/
def Intent.ofWords (words : List String) : Intent := .ofReading (read Form.program words)

end CommandLine

end GatewayDesk
