import GatewayDesk.Config.Store
import GatewayDesk.Gateway.Client
import GatewayDesk.Log.Filter
import GatewayDesk.Log.Line

/-!
# Desks and jobs

A run takes place at a desk: it finds files and a gateway there, and leaves notes of what it says. A
job is a piece of work at a desk. It may fail, and what it did before it failed stays done.

* `bind_apply`: what a job after another does.
* `notes_call`: a call leaves notes of events and nothing else.
* `files_call`: a call leaves the files as they are.
-/

namespace GatewayDesk

/-! ## Desks -/

/-- What a run says. -/
inductive Note where
  /-- A text on standard output. -/
  | out (text : String)
  /-- A text on standard error. -/
  | err (text : String)
  /-- Something about the run itself, which is told on standard error to those who ask for it. -/
  | event (event : Log.Event)
  deriving DecidableEq, Repr

/-- Where a run takes place. -/
structure Desk where
  files : FileTree
  gateway : Gateway
  /-- What the run has said, in order. -/
  notes : List Note

namespace Desk

/-- The desk with a further note. -/
def note (desk : Desk) (note : Note) : Desk := { desk with notes := desk.notes ++ [note] }

/-- What stands on standard output. -/
def standardOutput (desk : Desk) : String :=
  String.join (desk.notes.map fun
    | .out text => text
    | _ => "")

/-- What stands on standard error, where a filter says which events are told. -/
def standardError (desk : Desk) (filter : Log.Filter) (painting : Bool) (time : String) : String :=
  String.join (desk.notes.map fun
    | .out _ => ""
    | .err text => text
    | .event event => if filter.allows event then event.line painting time else "")

end Desk

/-! ## Jobs -/

/-- A piece of work at a desk. -/
def Job (α : Type) : Type := Desk → Attempt α × Desk

namespace Job

variable {α β : Type}

/-- A job that does nothing. -/
protected def pure (a : α) : Job α := fun desk => (.ok a, desk)

/-- A job after another; it is left out if the other fails. -/
protected def bind (job : Job α) (next : α → Job β) : Job β := fun desk =>
  match job desk with
  | (.ok a, desk) => next a desk
  | (.error failure, desk) => (.error failure, desk)

instance : Monad Job where
  pure := Job.pure
  bind := Job.bind

theorem bind_apply (job : Job α) (next : α → Job β) (desk : Desk) :
    (job >>= next) desk =
      match job desk with
      | (.ok a, desk) => next a desk
      | (.error failure, desk) => (.error failure, desk) := rfl

/-- The job of a result that is known. -/
def ofAttempt (attempt : Attempt α) : Job α := fun desk => (attempt, desk)

/-- A job that fails. -/
def fail (failure : Failure) : Job α := ofAttempt (.error failure)

/-- A job that says what was being done if it fails. -/
def during (context : String) (job : Job α) : Job α := fun desk =>
  ((job desk).1.during context, (job desk).2)

/-- A job whose failure is no failure of the whole. -/
def attempt (job : Job α) : Job (Attempt α) := fun desk => (.ok (job desk).1, (job desk).2)

/-! ## Notes -/

/-- Leaves a note. -/
def leave (note : Note) : Job Unit := fun desk => (.ok (), desk.note note)

/-- Says a text on standard output. -/
def say (text : String) : Job Unit := leave (.out text)

/-- Says a line on standard output. -/
def sayLine (line : String) : Job Unit := say (line ++ "\n")

/-- Says a line on standard error. -/
def complain (line : String) : Job Unit := leave (.err (line ++ "\n"))

/-! ## Files and gateway -/

/-- The files of the desk. -/
def files : Job FileTree := fun desk => (.ok desk.files, desk)

/-- Changes the files of the desk. -/
def change (outcome : FileTree.Outcome Failure) : Job Unit := fun desk =>
  (outcome.result, { desk with files := outcome.files })

/-- Calls the gateway. -/
def call (client : Client) (call : Call) : Job Reply := fun desk =>
  let exchange := client.send desk.gateway call
  (Attempt.ofGateway exchange.result,
    ⟨desk.files, exchange.gateway, desk.notes ++ exchange.events.map .event⟩)

theorem files_call (client : Client) (c : Call) (desk : Desk) :
    (call client c desk).2.files = desk.files := rfl

theorem notes_call (client : Client) (c : Call) (desk : Desk) :
    (call client c desk).2.notes =
      desk.notes ++ (client.send desk.gateway c).events.map .event := rfl

end Job

end GatewayDesk
