import Switchboard.Client.Call
import Switchboard.Transport.Basic
import Switchboard.Trace

/-!
# The journal of a client

The journal holds what a client did, the latest first: calls registered, sent, completed and given
back, what arrived, and the events of the trace. Histories are read off it.
-/

namespace Switchboard.Client

/-- What an operation of the client answers. -/
inductive Reply where
  | done
  | accepted (id : Int)
  | refused (failure : CallFailure)
  | flag (value : Bool)
  | count (value : Nat)
  | outcome (outcome : Outcome)
  /-- The call is still open. -/
  | pending
  deriving Repr, Inhabited

inductive Mark where
  | traced (event : Event)
  /-- A call was registered. -/
  | registered (call : Request)
  /-- A line was handed to the transport. -/
  | transmitted (line : String)
  /-- A dispatch answered with the id of its call. -/
  | accepted (id : Int)
  /-- A dispatch took its call back and failed. -/
  | withdrawn (id : Int) (failure : CallFailure)
  | arrived (arrival : Arrival)
  /-- The table was closed. -/
  | closing (reason : String)
  | reopened
  /-- A call is about to be cancelled, by its id or through its handle. -/
  | cancelling (id : Int)
  /-- The overdue calls of an instant are about to be timed out. -/
  | sweeping (now : Nat)
  /-- The handle of a call waited until its own deadline. -/
  | waited (id : Int) (deadline : Nat)
  /-- The callback of a call was told the outcome. -/
  | completed (id : Int) (outcome : Outcome)
  /-- A script noted an outcome and what its actions answered. -/
  | scripted (label : String) (outcome : Outcome) (replies : List Reply)
  /-- The transport was told to start another peer. -/
  | relaunched
  /-- The client was closed for good. -/
  | shut
  deriving Repr, Inhabited

abbrev Journal := List Mark

namespace Journal

/-- The events of the trace, in order. -/
def trace (j : Journal) : List Event :=
  (j.filterMap fun
    | .traced e => some e
    | _ => none).reverse

/-- What scripts noted, in order. -/
def notes (j : Journal) : List (String × Outcome × List Reply) :=
  (j.filterMap fun
    | .scripted label outcome replies => some (label, outcome, replies)
    | _ => none).reverse

end Journal

end Switchboard.Client
