import GatewayDesk.Toml.Basic
import GatewayDesk.Toml.Excerpt

/-!
# What can go wrong with TOML

A text may be no document, or a document of another shape than the reader wants. In the second case
the reader says at which value it failed, and the report shows where that value stands.
-/

namespace GatewayDesk

namespace Toml

/-- Why a value does not have the shape that is wanted. -/
inductive Reason where
  /-- A value of one kind stood where another was wanted. -/
  | mismatch (found : Found) (wanted : String)
  /-- A value of the right kind is beyond what was wanted. -/
  | beyond (found : Found) (wanted : String)
  /-- A table lacks a key. -/
  | missing (key : String)
  /-- An array has fewer items than were wanted. -/
  | tooShort (count : Nat) (wanted : String)
  deriving DecidableEq, Repr

/-- The reason in words. -/
def Reason.message : Reason → String
  | .mismatch found wanted => found.mismatch .plain wanted
  | .beyond found wanted => s!"invalid value: {found.describe .plain}, expected {wanted}"
  | .missing key => s!"missing field \x60{key}\x60"
  | .tooShort count wanted => s!"invalid length {count}, expected {wanted}"

/-- One step from a table or an array to what it holds. -/
inductive Step where
  | key (text : String)
  | item (index : Nat)
  deriving DecidableEq, Repr

/-- The steps from the document to a value. -/
abbrev Path := List Step

/-- A value that does not have the shape that is wanted. -/
structure Misfit where
  path : Path
  reason : Reason
  deriving DecidableEq, Repr

/-- What is read from a value. -/
abbrev Fit := Except Misfit

namespace Fit

/-- The value itself does not fit. -/
def refuse {α : Type} (reason : Reason) : Fit α := .error ⟨[], reason⟩

/-- What is read from a value one step inside another, as part of that. -/
def inside {α : Type} (step : Step) (fit : Fit α) : Fit α :=
  fit.mapError fun m => { m with path := step :: m.path }

end Fit

/-- Why a text is not read, or a value not written. -/
inductive Error where
  /-- The text is no document. -/
  | malformed
  /-- An integer to be written needs more than 64 bits with a sign. -/
  | outOfRange
  /-- A value of the document does not have the shape that is wanted. -/
  | shape (reason : Reason) (excerpt : Excerpt)
  deriving DecidableEq, Repr

/-- The error in words. -/
def Error.message : Error → String
  | .malformed => "invalid TOML document"
  | .outOfRange => "out-of-range value for u64 type"
  | .shape reason _ => reason.message

/-- The error in words, with the place where it is. -/
def Error.report : Error → String
  | .shape reason excerpt => excerpt.describe reason.message
  | other => other.message

end Toml

end GatewayDesk
