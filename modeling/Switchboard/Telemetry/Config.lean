import Switchboard.Config

/-!
# Configuration of the log

Which events are written and in which form. `TelemetryConfig.directives` is the filter that a
configuration stands for; `Telemetry.Filter` reads it.
-/

namespace Switchboard

open Switchboard.Json

inductive LogFormat where
  | json
  | compact
  deriving DecidableEq, Repr

instance : Inhabited LogFormat := ⟨.compact⟩

instance : Choice LogFormat where
  all := [("json", .json), ("compact", .compact)]
  name
    | .json => "json"
    | .compact => "compact"

/-- The least grave events that are written. -/
inductive Verbosity where
  | off
  | error
  | warn
  | info
  | debug
  | trace
  deriving DecidableEq, Repr

instance : Inhabited Verbosity := ⟨.info⟩

instance : Choice Verbosity where
  all := [("off", .off), ("error", .error), ("warn", .warn), ("info", .info), ("debug", .debug),
    ("trace", .trace)]
  name
    | .off => "off"
    | .error => "error"
    | .warn => "warn"
    | .info => "info"
    | .debug => "debug"
    | .trace => "trace"

/-- The parts of the library that speak in the trace. -/
def transportTarget : String := "kiota_rpc::transport"
def clientTarget : String := "kiota_rpc::client"
def stderrTarget : String := "kiota_rpc::stderr"

structure TelemetryConfig where
  level : Verbosity
  others : Verbosity
  generatorStderr : Bool
  extraDirectives : Option String
  logFormat : LogFormat
  deriving DecidableEq, Repr

namespace TelemetryConfig

def default : TelemetryConfig where
  level := .info
  others := .warn
  generatorStderr := false
  extraDirectives := none
  logFormat := .compact

instance : Inhabited TelemetryConfig := ⟨default⟩

/-- The configuration that shows a process's error output if the process logs it. -/
def forProcess (c : ProcessConfig) : TelemetryConfig :=
  { default with generatorStderr := c.stderr == .log }

/-- The filter: the level of all others, one for each part of the library, and then the extra
directives unless they are blank. -/
def directives (c : TelemetryConfig) : String :=
  let stderr : Verbosity := if c.generatorStderr then .debug else .off
  let level := Choice.name c.level
  let own := String.intercalate ","
    [Choice.name c.others, transportTarget ++ "=" ++ level, clientTarget ++ "=" ++ level,
     stderrTarget ++ "=" ++ Choice.name stderr]
  match c.extraDirectives with
  | none => own
  | some extra =>
    match Text.trim extra.toList with
    | [] => own
    | cs => own ++ "," ++ String.ofList cs

/-- The members in the order in which they are written. -/
def document (c : TelemetryConfig) : Value :=
  .object
    [("level", Choice.document c.level),
     ("others", Choice.document c.others),
     ("generator_stderr", .bool c.generatorStderr),
     ("extra_directives", (c.extraDirectives.map Value.string).getD .null),
     ("log_format", Choice.document c.logFormat)]

/-- Each member may be missing and then has its default. -/
def decoder : Decoder TelemetryConfig :=
  .record "struct TelemetryConfig"
    [.optional "level" Choice.decoder fun v c => { c with level := v },
     .optional "others" Choice.decoder fun v c => { c with others := v },
     .optional "generator_stderr" .bool fun v c => { c with generatorStderr := v },
     .optional "extra_directives" (.option .string) fun v c => { c with extraDirectives := v },
     .optional "log_format" Choice.decoder fun v c => { c with logFormat := v }]
    default

end TelemetryConfig

end Switchboard
