import GatewayDesk.Desk.Needs
import GatewayDesk.Desk.Run
import Std.Time.Format

/-!
# The program on this machine

The files that a run looks at are gathered before it, and what it has changed is written after it.
The program has no line to a network, so no request reaches a gateway.
-/

namespace GatewayDesk

namespace Machine

/-! ## Before a run -/

/-- The path of a location. -/
def pathOf (location : Location) : String := "/" ++ "/".intercalate location

/-- What stands at a location. -/
def entryAt? (location : Location) : IO (Option Entry) := do
  let path := pathOf location
  try
    return some (.file (← IO.FS.readBinFile path))
  catch _ =>
    let here ← IO.currentDir
    if ← (here / path).isDir then return some .directory else return none

/-- Adds what stands at the locations that a path leads through. -/
def gather (tree : FileTree) (path : String) : IO FileTree := do
  let from_ := if Path.isAbsolute path then [] else tree.here
  (FileTree.waypoints from_ (Path.steps path)).foldlM
    (fun tree location => do
      match ← entryAt? location with
      | some entry => return tree.put location entry
      | none => return tree)
    tree

/-- The files that a run looks at. -/
def files (environment : Environment) (intent : CommandLine.Intent) : IO FileTree := do
  let here ← IO.currentDir
  let tree ← gather ⟨[], Path.steps here.toString⟩ here.toString
  let config := (environment.home?.map Job.configPath).toList
  (config ++ intent.paths).foldlM gather tree

/-- The variables that are settings. -/
def settings : List String :=
  ["HOME", "SENSOR_EDGE_SERVER", "RUST_LOG", "NO_COLOR", "CLICOLOR", "CLICOLOR_FORCE"]

/-- What surrounds a run, with nothing on standard input. -/
def environment : IO Environment := do
  let values ← settings.filterMapM fun name => do
    return (← IO.getEnv name).map fun value => (name, value)
  return ⟨values, .empty, ← (← IO.getStdin).isTty, ← (← IO.getStdout).isTty⟩

/-! ## Notes -/

/-- The time of day. -/
def now : IO String := do
  let instant ← Std.Time.Timestamp.now
  let time := Std.Time.DateTime.ofTimestamp instant Std.Time.TimeZone.ZoneRules.UTC
  return time.format "uuuu-MM-dd'T'HH:mm:ss.SSSSSS'Z'"

/-- Tells a note. -/
def tell (environment : Environment) (note : Note) : IO Unit := do
  match note with
  | .out text => IO.print text
  | .err text => IO.eprint text
  | .event event =>
    if environment.filter.allows event then
      IO.eprint (event.line environment.wantsPaintedEvents (← now))

/-- Tells all notes. -/
def tellAll (environment : Environment) (notes : List Note) : IO Unit := do
  notes.forM (tell environment)
  (← IO.getStdout).flush

/-! ## After a run -/

/-- Writes an entry that a run has changed. -/
def keep (location : Location) (entry : Entry) : IO Unit := do
  let path := pathOf location
  match entry with
  | .directory => IO.FS.createDirAll path
  | .file contents =>
    IO.FS.writeBinFile (path ++ ".save") contents
    IO.FS.rename (path ++ ".save") path

/-- Writes all that a run has changed, directories first. -/
def keepAll (before after : FileTree) : IO Unit := do
  let changed := after.entries.filter fun (location, entry) => before.at? location != some entry
  let (directories, files) := changed.partition fun (_, entry) => entry == .directory
  (directories ++ files).forM fun (location, entry) => keep location entry

/-! ## Runs -/

/-- Runs the program with what is read from standard input, after some notes have been told. -/
def finish (environment : Environment) (desk : Desk) (intent : CommandLine.Intent) (told : Nat) :
    IO UInt32 := do
  let (code, after) := desk.perform environment intent
  keepAll desk.files after.files
  tellAll environment (after.notes.drop told)
  return UInt32.ofNat code

/-- Runs the program: asks before it reads an answer. -/
def run (words : List String) : IO UInt32 := do
  let intent := CommandLine.Intent.ofWords words
  let environment ← environment
  let desk : Desk := ⟨← files environment intent, .unreachable, []⟩
  let answered (line : String) := { environment with input := line.toUTF8 }
  match intent.inputNeed with
  | .nothing => finish environment desk intent 0
  | .all =>
    let input ← (← IO.getStdin).readBinToEnd
    finish { environment with input := input } desk intent 0
  | .answer =>
    let yes := (desk.perform (answered "y\n") intent).2.notes
    let no := (desk.perform (answered "\n") intent).2.notes
    let question := Note.shared yes no
    tellAll environment question
    let line ← if environment.inputIsTerminal then (← IO.getStdin).getLine else pure ""
    finish (answered line) desk intent question.length

end Machine

end GatewayDesk

/-- Runs the program with the words of its command line. -/
def main (words : List String) : IO UInt32 := GatewayDesk.Machine.run words
