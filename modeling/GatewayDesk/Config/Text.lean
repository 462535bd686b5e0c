import GatewayDesk.Config.Basic
import GatewayDesk.Toml.Place

/-!
# The text of a configuration

A configuration is written as a TOML document: the name of the current profile, and a table for each
profile. `Config.ofText` reads one back; keys that it does not know say nothing.
-/

namespace GatewayDesk

namespace Config

/-! ## Reading -/

/-- The keys of a document, as far as they have been read. -/
structure Draft where
  current : Option String
  profiles : Option Profiles

/-- Reads one more key; unknown ones say nothing. -/
def Draft.read (draft : Draft) (key : String) (value : Toml.Value) : Toml.Fit Draft :=
  Toml.Fit.inside (.key key) do
    if key = "current_profile" then return { draft with current := ← Profile.text value }
    else if key = "profile" then return { draft with profiles := ← Profiles.ofToml value }
    else return draft

/-- The name of the current profile, and the profiles. -/
def ofMembers (members : Toml.Members) : Toml.Fit (String × Profiles) := do
  let draft ← members.foldlM (fun (draft : Draft) m => draft.read m.1 m.2) ⟨none, none⟩
  match draft.current, draft.profiles with
  | some current, some profiles => return (current, profiles)
  | none, _ => .refuse (.missing "current_profile")
  | _, none => .refuse (.missing "profile")

/-- The name of the current profile, and the profiles, that a text spells. -/
def ofText (text : String) : Except Toml.Error (String × Profiles) := do
  match ofMembers (← Toml.read text) with
  | .ok result => return result
  | .error misfit => throw (.shape misfit.reason (.ofPath text misfit.path))

/-! ## Writing -/

/-- The text of a configuration. -/
def text (config : Config) : Except Toml.Error String := do
  let profiles ← config.profiles.write
  return String.ofList <|
    Profile.pairLine "current_profile" (Toml.Text.write config.current.toList) ++ profiles

end Config

end GatewayDesk
