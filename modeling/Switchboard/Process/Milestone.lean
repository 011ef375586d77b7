import Switchboard.Config
import Switchboard.Process.Status
import Switchboard.Telemetry.Config
import Switchboard.Text.Quoted
import Switchboard.Trace

/-!
# Milestones

What a transport does about its processes, in the order in which it does it. Each milestone is an
event of the trace.
-/

namespace Switchboard

inductive Milestone where
  | spawning
  /-- The process of a generation has begun. -/
  | spawned (generation : Nat)
  /-- The process of a generation is to end. -/
  | stopping (generation : Nat)
  /-- The process had ended before. -/
  | foundEnded (generation : Nat) (status : ExitStatus)
  /-- The process ended within the time of grace. -/
  | endedInGrace (generation : Nat) (status : ExitStatus)
  | killing (generation : Nat)
  deriving DecidableEq, Repr

namespace Milestone

/-- The event that a milestone is for a transport with a configuration. -/
def event (config : ProcessConfig) (m : Milestone) : Event :=
  let note (level : Level) (message : String) (fields : List (String × FieldValue)) : Event :=
    { level, target := transportTarget, message, fields }
  let pid (generation : Nat) : String × FieldValue := ("pid", .int generation)
  let arguments := "[" ++ ", ".intercalate (config.args.map Text.Quoted.quote) ++ "]"
  match m with
  | .spawning =>
    note .debug "spawning generator process"
      [("command", .shown config.executable), ("args", .shown arguments)]
  | .spawned g => note .debug "generator process spawned" [pid g, ("generation", .int g)]
  | .stopping g => note .debug "stopping generator process" [pid g, ("generation", .int g)]
  | .foundEnded g status =>
    note .debug "generator already exited" [pid g, ("status", .shown status.shown)]
  | .endedInGrace g status =>
    note .debug "generator exited during grace period" [pid g, ("status", .shown status.shown)]
  | .killing g =>
    note .warn "generator did not exit gracefully, killing"
      [pid g, ("grace_ms", .int config.shutdownGrace.millis)]

end Milestone

end Switchboard
