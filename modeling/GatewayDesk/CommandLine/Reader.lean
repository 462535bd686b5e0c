import GatewayDesk.CommandLine.Help

/-!
# Reading command lines

The words of a command line are read one after the other. The names of commands lead from the form
of the program down to that of a command; the other words fill its places, and words that start
with hyphens are switches, until two hyphens alone say that all further words are plain. A switch
is given at most once to each command.

The switches `help` and `version`, and the command `help`, end the reading: the rest is not looked
at, other than the names of commands after `help`.
-/

namespace GatewayDesk

namespace CommandLine

/-! ## What is read -/

/-- A command line that fits the form of a program. -/
structure Sentence where
  /-- The names that lead to the command, without that of the program. -/
  commands : List String
  /-- The words in its places. -/
  words : List String
  /-- The switches in the order in which they are given, each with its value. -/
  switches : List (String × String)
  deriving DecidableEq, Repr

namespace Sentence

/-- Whether a switch is given. -/
def has (sentence : Sentence) (name : String) : Bool :=
  sentence.switches.any (·.1 == name)

/-- The value of a switch. Of several commands that it is given to, the lowest has its way. -/
def value? (sentence : Sentence) (name : String) : Option String :=
  sentence.switches.reverse.lookup name

end Sentence

/-- Why a command line is none. -/
inductive UsageError where
  | unknownWord (word : String)
  | unknownSwitch (name : String)
  /-- A command with others below it is not followed by one of them. -/
  | noCommand
  | noWord (place : Place)
  | badWord (place : Place) (word : String)
  | noValue (switch : Switch)
  /-- A switch that takes no value is given one. -/
  | needlessValue (switch : Switch)
  | repeated (switch : Switch)
  deriving DecidableEq, Repr

/-- The error in words. -/
def UsageError.message : UsageError → String
  | .unknownWord word => s!"unexpected word '{word}'"
  | .unknownSwitch name => s!"unexpected option '{name}'"
  | .noCommand => "a command is missing"
  | .noWord place => s!"{place.usage} is missing"
  | .badWord place word => s!"'{word}' is no value for {place.usage}"
  | .noValue switch => s!"a value for '--{switch.name}' is missing"
  | .needlessValue switch => s!"'--{switch.name}' takes no value"
  | .repeated switch => s!"'--{switch.name}' is given more than once"

/-- What ends the reading before the last word, or at it. -/
inductive Stop where
  /-- Help is asked for. -/
  | help (form : Form) (path : List String)
  /-- The version is asked for. -/
  | version
  | error (error : UsageError)

/-! ## The state of reading -/

/-- How the next words are read. -/
inductive Mode where
  | free
  /-- As words for places only. -/
  | plain
  /-- As names of commands that help is asked for. -/
  | helping
  deriving DecidableEq, Repr

/-- The state between two words. -/
structure Progress where
  form : Form
  /-- The names that lead to the form. -/
  path : List String
  /-- The switches given to the commands above. -/
  above : List (String × String)
  /-- The switches given to this command. -/
  given : List (String × String)
  /-- The switch that waits for its value. -/
  waiting : Option Switch
  words : List String
  mode : Mode

/-- A step of the reading. -/
abbrev Step := Except Stop Progress

namespace Progress

/-- The state before the first word. -/
def start (form : Form) : Progress := ⟨form, [form.name], [], [], none, [], .free⟩

/-- The error that ends the reading. -/
def refuse {α : Type} (error : UsageError) : Except Stop α := .error (.error error)

/-! ## Steps -/

/-- Goes down to a command. -/
def descend (progress : Progress) (child : Form) : Progress :=
  { progress with
    form := child
    path := progress.path ++ [child.name]
    above := progress.above ++ progress.given
    given := [] }

/-- Takes a switch with its value. -/
def give (progress : Progress) (switch : Switch) (value : String) : Step :=
  if progress.given.any (·.1 == switch.name) then refuse (.repeated switch)
  else .ok { progress with
    given := progress.given ++ [(switch.name, value)]
    waiting := none }

/-- Takes a word for a place. -/
def fill (progress : Progress) (word : String) : Step :=
  match progress.form.place? progress.words.length with
  | none => refuse (.unknownWord word)
  | some place =>
    if place.filling.accepts word then .ok { progress with words := progress.words ++ [word] }
    else refuse (.badWord place word)

/-- Takes a switch that comes without a value. -/
def turnOn (progress : Progress) (switch : Switch) : Step :=
  if switch.name = "help" then .error (.help progress.form progress.path)
  else if switch.name = "version" then .error .version
  else if switch.value.isSome then .ok { progress with waiting := some switch }
  else progress.give switch ""

/-- Takes a switch by its name, which the sign `=` parts from a value. -/
def long (progress : Progress) (cs : List Char) : Step :=
  let name := String.ofList (cs.takeWhile (· != '='))
  match progress.form.switch? name, cs.dropWhile (· != '=') with
  | none, _ => refuse (.unknownSwitch name)
  | some switch, [] => progress.turnOn switch
  | some switch, _ :: value =>
    if switch.value.isSome then progress.give switch (String.ofList value)
    else refuse (.needlessValue switch)

/-- Takes the switches of a row of letters. What follows the letter of a switch that takes a value
is the value. -/
def letters (progress : Progress) : List Char → Step
  | [] => .ok progress
  | c :: rest =>
    match progress.form.switchOfLetter? c with
    | none => refuse (.unknownSwitch (String.singleton c))
    | some switch =>
      if switch.value.isSome && !rest.isEmpty then
        progress.give switch (String.ofList (if rest.head? = some '=' then rest.tail else rest))
      else
        match progress.turnOn switch with
        | .error stop => .error stop
        | .ok progress => progress.letters rest

/-- Takes a word that is no name of a command. -/
def word (progress : Progress) (word : String) : Step :=
  match word.toList with
  | ['-', '-'] => .ok { progress with mode := .plain }
  | '-' :: '-' :: rest => progress.long rest
  | ['-'] => progress.fill word
  | '-' :: rest => progress.letters rest
  | _ => progress.fill word

/-- Takes a word that may be the name of a command. -/
def anyWord (progress : Progress) (word : String) : Step :=
  match progress.form.child? word with
  | some child =>
    if child.name = "help" then .ok { progress with mode := .helping }
    else .ok (progress.descend child)
  | none => progress.word word

/-- Takes the name of a command that help is asked for. -/
def helpWord (progress : Progress) (word : String) : Step :=
  match progress.form.child? word with
  | some child => .ok (progress.descend child)
  | none => refuse (.unknownWord word)

/-- Whether a word can be the value of a switch: it does not look like a switch. -/
def isValue (word : String) : Bool := word == "-" || word.toList.head? != some '-'

/-- Takes a word. -/
def step (progress : Progress) (word : String) : Step :=
  match progress.waiting with
  | some switch =>
    if isValue word then progress.give switch word else refuse (.noValue switch)
  | none =>
    match progress.mode with
    | .free => progress.anyWord word
    | .plain => progress.fill word
    | .helping => progress.helpWord word

/-- Ends the reading after the last word. -/
def finish (progress : Progress) : Except Stop Sentence :=
  match progress.waiting, progress.mode with
  | some switch, _ => refuse (.noValue switch)
  | none, .helping => .error (.help progress.form progress.path)
  | none, _ =>
    if !progress.form.children.isEmpty then refuse .noCommand
    else
      match progress.form.missing? progress.words.length with
      | some place => refuse (.noWord place)
      | none => .ok ⟨progress.path.tail, progress.words, progress.above ++ progress.given⟩

end Progress

/-- Reads the words of a command line. -/
def read (form : Form) (words : List String) : Except Stop Sentence := do
  let progress ← words.foldlM Progress.step (Progress.start form)
  progress.finish

end CommandLine

end GatewayDesk
