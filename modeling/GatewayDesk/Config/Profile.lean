import GatewayDesk.Ordered
import GatewayDesk.Toml.Error
import GatewayDesk.Toml.Text.Printer

/-!
# Profiles

A profile names a gateway, the colour in which it is shown and, if it has one, the time after
which a request is given up. Profiles are read from TOML tables, or from arrays that hold the same
three things in order, and are written as tables. `Profiles` holds each profile under its name.
-/

namespace GatewayDesk

/-- A number of seconds. -/
abbrev Seconds := Fin 0x10000000000000000

/-- How to reach a gateway. -/
structure Profile where
  server : String
  color : String
  timeout : Option Seconds
  deriving DecidableEq, Repr

namespace Profile

/-- The colour of a profile that does not name one. -/
def defaultColor : String := "green"

/-- A profile in words, as messages want it. -/
def wanted : String := "struct Profile"

/-! ## Reading -/

/-- The text that a value must be. -/
def text (value : Toml.Value) : Toml.Fit String :=
  match value with
  | .text s => .ok s
  | other => .refuse (.mismatch other.found "a string")

/-- The number of seconds that a value must be. -/
def seconds (value : Toml.Value) : Toml.Fit Seconds :=
  match value with
  | .integer z =>
    if 0 ≤ z.val then .ok ⟨z.val.toNat, by omega⟩
    else .refuse (.beyond (.integer z.val) "u64")
  | other => .refuse (.mismatch other.found "u64")

/-- The keys of a table, as far as they have been read. -/
structure Draft where
  server : Option String
  color : Option String
  timeout : Option Seconds

/-- Reads one more key; unknown ones say nothing. -/
def Draft.read (draft : Draft) (key : String) (value : Toml.Value) : Toml.Fit Draft :=
  Toml.Fit.inside (.key key) do
    if key = "server" then return { draft with server := ← text value }
    else if key = "color" then return { draft with color := ← text value }
    else if key = "timeout_secs" then return { draft with timeout := ← seconds value }
    else return draft

/-- The profile of a table. -/
def ofMembers (members : Toml.Members) : Toml.Fit Profile := do
  let draft ← members.foldlM (fun (draft : Draft) m => draft.read m.1 m.2) ⟨none, none, none⟩
  match draft.server with
  | some server => return ⟨server, draft.color.getD defaultColor, draft.timeout⟩
  | none => .refuse (.missing "server")

/-- The profile of an array; items beyond the third say nothing. -/
def ofItems (items : List Toml.Value) : Toml.Fit Profile := do
  match items with
  | [] => .refuse (.tooShort 0 (wanted ++ " with 3 elements"))
  | first :: more =>
    let server ← Toml.Fit.inside (.item 0) (text first)
    match more with
    | [] => return ⟨server, defaultColor, none⟩
    | second :: more =>
      let color ← Toml.Fit.inside (.item 1) (text second)
      match more with
      | [] => return ⟨server, color, none⟩
      | third :: _ => return ⟨server, color, some (← Toml.Fit.inside (.item 2) (seconds third))⟩

/-- The profile of a value. -/
def ofToml (value : Toml.Value) : Toml.Fit Profile :=
  match value with
  | .table _ members => ofMembers members
  | .moment _ => .refuse (.missing "server")
  | .array items => ofItems items
  | .tables older newest => ofItems ((older ++ [newest]).map (.table .header))
  | other => .refuse (.mismatch other.found wanted)

/-! ## Writing -/

/-- A pair on a line of its own. -/
def pairLine (key : String) (value : List Char) : List Char :=
  key.toList ++ [' ', '=', ' '] ++ value ++ ['\n']

/-- The line of a timeout, if there is one. Integers are written as signed ones. -/
def writeTimeout : Option Seconds → Except Toml.Error (List Char)
  | none => .ok []
  | some n =>
    if n.val < 0x8000000000000000 then .ok (pairLine "timeout_secs" (Digits.digits n.val))
    else .error .outOfRange

/-- A profile as a table, with its header. -/
def write (name : String) (profile : Profile) : Except Toml.Error (List Char) := do
  let timeout ← writeTimeout profile.timeout
  return "[profile.".toList ++ Toml.Text.writeKey name.toList ++ [']', '\n'] ++
    pairLine "server" (Toml.Text.write profile.server.toList) ++
    pairLine "color" (Toml.Text.write profile.color.toList) ++ timeout

end Profile

/-- Profiles under their names, which ascend. -/
structure Profiles where
  entries : List (String × Profile)
  ascending : Ordered.Ascending entries

namespace Profiles

/-- No profiles. -/
def empty : Profiles := ⟨[], .nil⟩

/-- The profile of a name. -/
def get? (profiles : Profiles) (name : String) : Option Profile :=
  Ordered.get? profiles.entries name

/-- The profiles with one more, over an older one of the same name. -/
def insert (profiles : Profiles) (name : String) (profile : Profile) : Profiles :=
  ⟨Ordered.insert name profile profiles.entries, profiles.ascending.insert name profile⟩

theorem get?_insert (profiles : Profiles) (name k : String) (profile : Profile) :
    (profiles.insert name profile).get? k = if name = k then some profile else profiles.get? k :=
  Ordered.get?_insert name k profile profiles.entries

/-- The names, ascending. -/
def names (profiles : Profiles) : List String := profiles.entries.map Prod.fst

/-- The profiles of a table. -/
def ofToml (value : Toml.Value) : Toml.Fit Profiles :=
  match value with
  | .table _ members =>
    members.foldlM (fun (profiles : Profiles) m => do
      return profiles.insert m.1 (← Toml.Fit.inside (.key m.1) (Profile.ofToml m.2))) empty
  | .moment m => .refuse (.mismatch (.string m.text) Profile.wanted)
  | other => .refuse (.mismatch other.found "a map")

/-- The profiles as tables. -/
def write (profiles : Profiles) : Except Toml.Error (List Char) := do
  let tables ← profiles.entries.mapM fun p => p.2.write p.1
  return tables.flatMap ('\n' :: ·)

end Profiles

end GatewayDesk
