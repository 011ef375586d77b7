import Switchboard.Config
import Switchboard.Failure
import Switchboard.Process.Status

/-!
# The behaviour of processes

What a process does depends on what is done to it. A behaviour maps everything that was done to the
process since its start to what can be seen of it up to an instant. Instants are counted in
nanoseconds. A system says what becomes of an attempt to spawn a process, which depends on what the
processes before it have left behind.
-/

namespace Switchboard

/-- What is done to a process: what is written to its input and when, when its input is closed, and
which signals it is sent. -/
structure Stimuli where
  input : List (Nat × List UInt8)
  inputEnd : Option Nat
  signals : List (Nat × Signal)
  deriving Repr, Inhabited

namespace Stimuli

def none : Stimuli := { input := [], inputEnd := Option.none, signals := [] }

def write (s : Stimuli) (now : Nat) (bytes : List UInt8) : Stimuli :=
  { s with input := s.input ++ [(now, bytes)] }

def closeInput (s : Stimuli) (now : Nat) : Stimuli :=
  { s with inputEnd := s.inputEnd.or (some now) }

def signal (s : Stimuli) (now : Nat) (signal : Signal) : Stimuli :=
  { s with signals := s.signals ++ [(now, signal)] }

end Stimuli

/-- What a process has left at a path: nothing, if it has taken away what was there. -/
inductive Remnant where
  | nothing
  | directory
  | file (text : List UInt8)
  deriving Repr, Inhabited

/-- What processes have left behind, by its path; what comes first at a path is what is there. -/
abbrev Remnants := List (String × Remnant)

/-- What can be seen of a process up to an instant. -/
structure Observation where
  /-- What was written to its output, in order. -/
  output : List (Nat × List UInt8)
  /-- When the last holder of the output let go of it. -/
  outputEnd : Option Nat
  /-- When the last reader of the input let go of it. -/
  inputEnd : Option Nat
  exit : Option (Nat × ExitStatus)
  /-- The next instant at which the process goes on if nothing is done to it. -/
  wake : Option Nat
  /-- What it has left behind, with what was left to it. -/
  remnants : Remnants
  deriving Repr, Inhabited

namespace Observation

/-- How the process has ended by an instant. -/
def exitBy? (o : Observation) (now : Nat) : Option ExitStatus :=
  match o.exit with
  | some (t, status) => if t ≤ now then some status else none
  | none => none

/-- Whether nobody reads the input any more. -/
def isDeaf (o : Observation) (now : Nat) : Bool :=
  match o.inputEnd with
  | some t => t ≤ now
  | none => false

end Observation

/-- What is seen of a process that began at an instant, was stimulated, and is looked at up to
another instant. -/
abbrev Behaviour := (start : Nat) → Stimuli → (horizon : Nat) → Observation

/-- What becomes of each attempt to spawn the configured process. -/
abbrev System := (attempt : Nat) → Remnants → ProcessConfig → Except SystemError Behaviour

/-- A process that was spawned. -/
structure Child where
  behaviour : Behaviour
  start : Nat
  stimuli : Stimuli

namespace Child

def spawn (behaviour : Behaviour) (now : Nat) : Child :=
  { behaviour, start := now, stimuli := .none }

def observe (c : Child) (horizon : Nat) : Observation := c.behaviour c.start c.stimuli horizon

def stimulate (c : Child) (f : Stimuli → Stimuli) : Child := { c with stimuli := f c.stimuli }

/-- Looks ahead until something is found in what is seen of a process, or until it waits for others,
at most `n` times. Each look reaches further than the one before by twice as much. -/
def search {α : Type} (c : Child) (find : Observation → Option α) :
    (n horizon reach : Nat) → Option α
  | 0, _, _ => none
  | n + 1, horizon, reach =>
    let o := c.observe horizon
    match find o with
    | some a => some a
    | none =>
      match o.wake with
      | some t => search c find n (max t (horizon + reach)) (2 * reach)
      | none => none

end Child

end Switchboard
