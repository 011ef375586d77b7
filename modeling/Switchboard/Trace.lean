/-!
# Trace events

What the library reports about its own work: a level, the part of the library that speaks, a message
and named fields. `Telemetry` decides which events are written and how.
-/

namespace Switchboard

/-- How grave an event is, the gravest first. -/
inductive Level where
  | error
  | warn
  | info
  | debug
  | trace
  deriving DecidableEq, Repr

namespace Level

def name : Level → String
  | .error => "error"
  | .warn => "warn"
  | .info => "info"
  | .debug => "debug"
  | .trace => "trace"

/-- The level as a number, growing with the detail. -/
def detail : Level → Nat
  | .error => 1
  | .warn => 2
  | .info => 3
  | .debug => 4
  | .trace => 5

end Level

/-- The value of a field: a text given as such, a text that another value was formatted to, or an
integer. -/
inductive FieldValue where
  | str (text : String)
  | shown (text : String)
  | int (value : Int)
  deriving DecidableEq, Repr

def FieldValue.text : FieldValue → String
  | .str s => s
  | .shown s => s
  | .int i => toString i

/-- One event of the trace. -/
structure Event where
  level : Level
  target : String
  message : String
  fields : List (String × FieldValue)
  deriving DecidableEq, Repr

end Switchboard
