import GatewayDesk.Log.Event
import GatewayDesk.Terminal.Paint

/-!
# Events as lines

An event is told on a line of its own: the time, the level, the part of the program, the message and
the named values.
-/

namespace GatewayDesk

namespace Log

/-- The name of a level, at the right of five places. -/
def Level.label : Level → String
  | .error => "ERROR"
  | .warn => " WARN"
  | .info => " INFO"
  | .debug => "DEBUG"
  | .trace => "TRACE"

/-- The colour of a level. -/
def Level.color : Level → Color
  | .error => .red
  | .warn => .yellow
  | .info => .green
  | .debug => .blue
  | .trace => .magenta

namespace Event

/-- A named value. -/
def field (painting : Bool) (name value : String) : String :=
  let name := Paint.apply painting .italic name
  let sign := Paint.apply painting .dim "="
  s!" {name}{sign}{value}"

/-- The line of an event that is told at a time. -/
def line (event : Event) (painting : Bool) (time : String) : String :=
  let time := Paint.apply painting .dim time
  let level := Paint.apply painting (.color event.level.color) event.level.label
  let source := Paint.apply painting .dim event.source
  let colon := Paint.apply painting .dim ":"
  let fields := String.join (event.fields.map fun (name, value) => field painting name value)
  s!"{time} {level} {source}{colon} {event.message}{fields}\n"

end Event

end Log

end GatewayDesk
