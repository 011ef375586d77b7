import Switchboard.Failure
import Switchboard.Trace

/-!
# Transports

A transport carries lines between a client and its peer. What comes from the peer is an arrival. An
operation on a transport may take time, may let arrivals through before it is done and may report
what it did: this is its reaction. Instants are counted in nanoseconds.
-/

namespace Switchboard

/-- What comes from the peer. -/
inductive Arrival where
  | line (text : String)
  /-- A line that was dropped, with its number of bytes. -/
  | discarded (length : Nat)
  /-- The end of everything that the peer writes. -/
  | ended (reason : String)
  deriving DecidableEq, Repr

/-- What an operation on a transport leads to: the events of its trace, what arrives before it is
done, in order, its failure if it fails, and the nanoseconds it takes. -/
structure Reaction where
  events : List Event
  arrivals : List Arrival
  failure : Option TransportFailure
  duration : Nat
  deriving Repr

/-- The reaction of an operation that works in silence. -/
def Reaction.silent : Reaction := { events := [], arrivals := [], failure := none, duration := 0 }

/-- The reaction of an operation that fails at once. -/
def Reaction.refusal (failure : TransportFailure) : Reaction :=
  { Reaction.silent with failure := some failure }

/-- What the peer does by itself: the instant and the arrivals. -/
structure Happening (σ : Type) where
  instant : Nat
  transport : σ
  arrivals : List Arrival

/-- The operations of a transport; each gets the current instant. -/
class Transport (σ : Type) where
  /-- Starts the first peer. -/
  start : σ → (now : Nat) → σ × Reaction
  /-- Stops the peer if there is one and starts another. -/
  restart : σ → (now : Nat) → σ × Reaction
  /-- Hands a line to the peer. -/
  send : σ → (now : Nat) → String → σ × Reaction
  close : σ → (now : Nat) → σ × Reaction
  /-- The transport after its peer has ended what it writes. -/
  ended : σ → σ
  /-- What the peer does next if nothing else happens. -/
  next : σ → (now : Nat) → Option (Happening σ)
  isRunning : σ → (now : Nat) → Bool
  pid : σ → Option Nat
  /-- A bound on the arrivals to come. -/
  budget : σ → Nat

end Switchboard
