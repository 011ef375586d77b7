import Switchboard.Transport.Basic

/-!
# Transports with a log

A logged transport does what the transport does that it is made of, and keeps a log of what its
client had it do since it was started. What is said of the log of a client is so said of the
operations themselves, in the order in which the client called them, whatever the transport is.
-/

namespace Switchboard

/-- What a client has its transport do. -/
inductive Use where
  | started
  | restarted
  | sent (line : String)
  | closed
  deriving DecidableEq, Repr

/-- A transport with the log of its uses, in order. -/
structure Logged (σ : Type) where
  transport : σ
  uses : List Use

namespace Logged

variable {σ : Type}

def log (l : Logged σ) (use : Use) (result : σ × Reaction) : Logged σ × Reaction :=
  ({ transport := result.1, uses := l.uses ++ [use] }, result.2)

def lines (l : Logged σ) : List String :=
  l.uses.filterMap fun
    | .sent line => some line
    | _ => none

variable [Transport σ]

instance : Transport (Logged σ) where
  start l now := log { l with uses := [] } .started (Transport.start l.transport now)
  restart l now := l.log .restarted (Transport.restart l.transport now)
  send l now line := l.log (.sent line) (Transport.send l.transport now line)
  close l now := l.log .closed (Transport.close l.transport now)
  ended l := { l with transport := Transport.ended l.transport }
  next l now := (Transport.next l.transport now).map fun happening =>
    { instant := happening.instant
      transport := { l with transport := happening.transport }
      arrivals := happening.arrivals }
  isRunning l := Transport.isRunning l.transport
  pid l := Transport.pid l.transport
  budget l := Transport.budget l.transport

end Logged

end Switchboard
