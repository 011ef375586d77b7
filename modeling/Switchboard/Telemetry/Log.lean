import Switchboard.Json.Printer
import Switchboard.Telemetry.Filter

/-!
# The log

`Telemetry.initialise` installs a log once: the first configuration with a valid filter stays,
unless something else takes the events already. A line of the log shows one event, as a document or
as text.
-/

namespace Switchboard

open Switchboard.Json

/-! ### Lines -/

def Level.capitals : Level → String
  | .error => "ERROR"
  | .warn => "WARN"
  | .info => "INFO"
  | .debug => "DEBUG"
  | .trace => "TRACE"

/-- The level right-aligned to the width of the longest one. -/
def Level.aligned (l : Level) : String :=
  "".pushn ' ' (5 - l.capitals.length) ++ l.capitals

def FieldValue.document : FieldValue → Value
  | .str s => .string s
  | .shown s => .string s
  | .int i => .number (.int i)

namespace Event

/-- An event of a thread as a document, with its names in ascending order. -/
def document (e : Event) (thread : String) : Value :=
  .object (Members.ofList
    ([("level", .string e.level.capitals), ("target", .string e.target),
      ("threadName", .string thread), ("message", .string e.message)] ++
     e.fields.map fun (k, v) => (k, v.document)))

/-- A field of a line of text: a text given as such stands in quotes. -/
def field : String × FieldValue → String
  | (k, .str s) => k ++ "=" ++ Text.Quoted.quote s
  | (k, v) => k ++ "=" ++ v.text

/-- An event of a thread as a line of text. -/
def line (e : Event) (thread : String) : String :=
  String.intercalate " "
    ([e.level.aligned, thread, e.target ++ ":", e.message] ++ e.fields.map field)

end Event

/-! ### Installation -/

inductive TelemetryFault where
  | filter (directives : String) (fault : DirectiveFault)
  /-- Something else takes the events. -/
  | occupied
  deriving DecidableEq, Repr

def TelemetryFault.message : TelemetryFault → String
  | .filter directives fault => s!"invalid log filter '{directives}': {fault.message}"
  | .occupied =>
    "failed to install telemetry subscriber: a global default trace dispatcher has already been set"

/-- A log that is installed. -/
structure Log where
  directives : String
  filter : Filter
  format : LogFormat
  deriving DecidableEq, Repr

namespace Log

/-- The log that a configuration asks for. -/
def ofConfig (c : TelemetryConfig) : Except TelemetryFault Log :=
  match Filter.parse c.directives with
  | .ok filter => .ok { directives := c.directives, filter, format := c.logFormat }
  | .error fault => .error (.filter c.directives fault)

/-- The lines that a log writes of events of a thread. -/
def lines (l : Log) (thread : String) (events : List Event) : List String :=
  (events.filter l.filter.passes).map fun e =>
    match l.format with
    | .json => (e.document thread).render
    | .compact => e.line thread

end Log

/-- What takes the events: nothing yet, the log of this library, or something else. -/
inductive Telemetry where
  | vacant
  | installed (log : Log)
  | occupied
  deriving DecidableEq, Repr

namespace Telemetry

/-- Installs the log of a configuration. A log that is installed already stays and is the answer. -/
def initialise (t : Telemetry) (c : TelemetryConfig) : Telemetry × Except TelemetryFault Log :=
  match t with
  | .installed log => (t, .ok log)
  | .vacant =>
    match Log.ofConfig c with
    | .ok log => (.installed log, .ok log)
    | .error fault => (t, .error fault)
  | .occupied =>
    match Log.ofConfig c with
    | .ok _ => (t, .error .occupied)
    | .error fault => (t, .error fault)

end Telemetry

end Switchboard
