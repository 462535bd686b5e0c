/-!
# Events

What the program notes about its own run: how grave it is, which part of the program notes it, a
message and named values.
-/

namespace GatewayDesk

namespace Log

/-- How grave an event is, from the gravest on. -/
inductive Level where
  | error
  | warn
  | info
  | debug
  | trace
  deriving DecidableEq, Repr

/-- The place of a level among all levels, from one on. -/
def Level.rank : Level → Nat
  | .error => 1
  | .warn => 2
  | .info => 3
  | .debug => 4
  | .trace => 5

/-- An event. -/
structure Event where
  level : Level
  /-- The part of the program. -/
  source : String
  message : String
  fields : List (String × String)
  deriving DecidableEq, Repr

/-- Whether an event has a field; the message is one. -/
def Event.hasField (event : Event) (name : String) : Bool :=
  name == "message" || event.fields.any fun field => field.1 == name

end Log

end GatewayDesk
