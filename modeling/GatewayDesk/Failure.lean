import GatewayDesk.Files.Error
import GatewayDesk.Gateway.Error
import GatewayDesk.Json.Error
import GatewayDesk.Toml.Error
import GatewayDesk.Yaml.Error

/-!
# Failures

An operation fails for a cause, and each layer that passes the failure on may say what it was doing.
`Failure.texts` are the sentences of a failure, the outermost first.
-/

namespace GatewayDesk

/-- Why an operation fails. -/
inductive Cause where
  | json (error : Json.Error)
  | yaml (error : Yaml.Error)
  | toml (error : Toml.Error)
  | file (error : FileError)
  | gateway (error : GatewayError)
  /-- A reason that only a sentence states. -/
  | note (text : String)
  deriving DecidableEq, Repr

/-- The sentences of a cause, the outermost first. -/
def Cause.texts : Cause → List String
  | .json e => [e.message]
  | .yaml e => [e.message]
  | .toml e => [e.message]
  | .file e => [e.message]
  | .gateway e => e.message :: e.causes
  | .note text => [text]

/-- The sentences of a cause as they are told at the end of a run: with the place in the text. -/
def Cause.told : Cause → List String
  | .toml e => [e.report]
  | other => other.texts

/-- A cause, and what was being done when it arose, the outermost first. -/
structure Failure where
  contexts : List String
  cause : Cause
  deriving DecidableEq, Repr

namespace Failure

/-- The failure as it is passed on by one who was doing something. -/
def during (context : String) (failure : Failure) : Failure :=
  { failure with contexts := context :: failure.contexts }

/-- All sentences, the outermost first. -/
def texts (failure : Failure) : List String := failure.contexts ++ failure.cause.texts

/-- The outermost sentence. -/
def message (failure : Failure) : String := failure.texts.headD ""

/-- The sentences below the outermost. -/
def causes (failure : Failure) : List String := failure.texts.tail

/-- A text of several lines with blanks before all but the first. -/
def hanging (blanks : String) (text : String) : String :=
  s!"\n{blanks}".intercalate (text.splitOn "\n")

/-- A sentence below the outermost, with its number. -/
def numbered (number : Nat) (text : String) : String :=
  let digits := toString number
  let room := String.ofList (List.replicate (5 - digits.length) ' ')
  s!"\n{room}{digits}: " ++ hanging "       " text

/-- The sentences below the outermost as they are told; several ones are numbered. -/
def tellCauses : List String → String
  | [] => ""
  | [cause] => "\n\nCaused by:\n    " ++ hanging "    " cause
  | causes =>
    "\n\nCaused by:" ++ String.join (causes.zipIdx.map fun (text, number) => numbered number text)

/-- The failure as it is told at the end of a run. -/
def report (failure : Failure) : String :=
  let told := failure.contexts ++ failure.cause.told
  "Error: " ++ told.headD "" ++ tellCauses told.tail ++ "\n"

/-- A failure that only a sentence states. -/
def note (text : String) : Failure := ⟨[], .note text⟩

end Failure

/-- What may fail. -/
abbrev Attempt := Except Failure

namespace Attempt

/-- An attempt that says what was being done. -/
def during {α : Type} (context : String) (attempt : Attempt α) : Attempt α :=
  attempt.mapError (Failure.during context)

/-- The result of a file operation. -/
def ofFile {α : Type} (result : Except FileError α) : Attempt α :=
  result.mapError fun e => ⟨[], .file e⟩

/-- The result of a call to a gateway. -/
def ofGateway {α : Type} (result : Except GatewayError α) : Attempt α :=
  result.mapError fun e => ⟨[], .gateway e⟩

/-- The result of a JSON reader. -/
def ofJson {α : Type} (result : Except Json.Error α) : Attempt α :=
  result.mapError fun e => ⟨[], .json e⟩

/-- The result of a YAML reader. -/
def ofYaml {α : Type} (result : Except Yaml.Error α) : Attempt α :=
  result.mapError fun e => ⟨[], .yaml e⟩

/-- The result of a TOML reader. -/
def ofToml {α : Type} (result : Except Toml.Error α) : Attempt α :=
  result.mapError fun e => ⟨[], .toml e⟩

end Attempt

end GatewayDesk
