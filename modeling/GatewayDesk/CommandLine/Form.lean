/-!
# Forms of commands

The form of a command says by which names it goes, which switches it takes, which places its words
fill, and which commands stand below it. A command with others below it has no places of its own:
its next word is the name of one of them.
-/

namespace GatewayDesk

namespace CommandLine

/-- A switch, which is written after two hyphens. -/
structure Switch where
  name : String
  /-- The letter that stands for it after one hyphen. -/
  letter : Option Char
  /-- What the value after it is called, if it takes one. -/
  value : Option String
  about : String
  deriving DecidableEq, Repr

/-- What can stand in a place. -/
inductive Filling where
  | text
  /-- The path of a file, which is not empty. -/
  | path
  /-- One of some words. -/
  | oneOf (choices : List String)
  deriving DecidableEq, Repr

/-- Whether a word can stand in a place. -/
def Filling.accepts : Filling → String → Bool
  | .text, _ => true
  | .path, word => word != ""
  | .oneOf choices, word => choices.contains word

/-- A place that words fill. -/
structure Place where
  name : String
  about : String
  /-- Whether it has to be filled. -/
  required : Bool
  /-- Whether several words can fill it. -/
  many : Bool
  filling : Filling
  deriving DecidableEq, Repr

/-- The form of a command. -/
structure Form where
  name : String
  aliases : List String
  about : String
  switches : List Switch
  places : List Place
  children : List Form

namespace Form

/-- Whether a command goes by a name. -/
def isNamed (form : Form) (name : String) : Bool :=
  form.name == name || form.aliases.contains name

/-- The command below that goes by a name. -/
def child? (form : Form) (name : String) : Option Form :=
  form.children.find? (·.isNamed name)

/-- The switch of a name. -/
def switch? (form : Form) (name : String) : Option Switch :=
  form.switches.find? (·.name == name)

/-- The switch of a letter. -/
def switchOfLetter? (form : Form) (letter : Char) : Option Switch :=
  form.switches.find? (·.letter == some letter)

/-- The place that a word fills after some others. -/
def place? (form : Form) (others : Nat) : Option Place :=
  match form.places[others]? with
  | some place => some place
  | none => form.places.getLast?.filter (·.many)

/-- The first place that has to be filled and is not, after some words. -/
def missing? (form : Form) (words : Nat) : Option Place :=
  (form.places.drop words).find? (·.required)

end Form

end CommandLine

end GatewayDesk
