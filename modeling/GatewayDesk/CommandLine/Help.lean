import GatewayDesk.CommandLine.Form

/-!
# Help for commands

The help for a command tells what it is for, how it is written, and in one section each what stands
below it, in its places and among its switches. The entries of a section have two columns, of which
the first is as wide as its widest cell.
-/

namespace GatewayDesk

namespace CommandLine

/-! ## Sections -/

/-- A text with blanks at its right, at least as long as a width. -/
def padded (width : Nat) (text : String) : String :=
  text ++ String.ofList (List.replicate (width - text.length) ' ')

/-- The entries of a section, one on a line. -/
def columns (entries : List (String × String)) : String :=
  let width := (entries.map fun (left, _) => left.length).foldl max 0
  String.join (entries.map fun (left, right) =>
    let left := padded width left
    s!"  {left}  {right}\n")

/-- A section, which is left out where it is empty. -/
def helpSection (title : String) (entries : List (String × String)) : List String :=
  if entries.isEmpty then [] else [title ++ ":\n" ++ columns entries]

/-- A text with a remark in square brackets. -/
def remarked (text remark : String) (items : List String) : String :=
  if items.isEmpty then text
  else
    let items := ", ".intercalate items
    if text.isEmpty then s!"[{remark}: {items}]" else s!"{text} [{remark}: {items}]"

/-! ## Entries -/

/-- The switch as it is written, with its letter or the room for one. -/
def Switch.usage (switch : Switch) : String :=
  let letter :=
    match switch.letter with
    | some c => s!"-{c}, "
    | none => "    "
  let value :=
    match switch.value with
    | some name => s!" <{name}>"
    | none => ""
  s!"{letter}--{switch.name}{value}"

/-- The place as it is written: in square brackets where it can stay empty. -/
def Place.usage (place : Place) : String :=
  let name := if place.required then s!"<{place.name}>" else s!"[{place.name}]"
  if place.many then name ++ "..." else name

/-- What is told about a place. -/
def Place.note (place : Place) : String :=
  match place.filling with
  | .oneOf choices => remarked place.about "possible values" choices
  | .text => place.about
  | .path => place.about

/-- What is told about a command among others. -/
def Form.note (form : Form) : String :=
  let remark := if form.aliases.length = 1 then "alias" else "aliases"
  remarked form.about remark form.aliases

/-! ## The help for a command -/

/-- How a command is written, after the names that lead to it. -/
def Form.usage (form : Form) (path : List String) : String :=
  let switches := if form.switches.isEmpty then [] else ["[OPTIONS]"]
  let rest := if form.children.isEmpty then form.places.map Place.usage else ["<COMMAND>"]
  " ".intercalate (path ++ switches ++ rest)

/-- The help for a command. -/
def Form.help (form : Form) (path : List String) : String :=
  let usage := form.usage path
  let start := s!"{form.about}\n\nUsage: {usage}\n"
  let sections :=
    helpSection "Commands" (form.children.map fun child => (child.name, child.note)) ++
    helpSection "Arguments" (form.places.map fun place => (place.usage, place.note)) ++
    helpSection "Options" (form.switches.map fun switch => (switch.usage, switch.about))
  "\n".intercalate (start :: sections)

end CommandLine

end GatewayDesk
