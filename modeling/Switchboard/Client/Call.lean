import Switchboard.Failure
import Switchboard.Timespan

/-!
# Calls

A call is open from its registration until its callback is told the outcome. A callback puts the
outcome into the mailbox of a handle, or is a script: it notes the outcome under a label and may use
the client that runs it, as far as that still exists.
-/

namespace Switchboard.Client

open Switchboard.Json

/-- What a call ends with. -/
abbrev Outcome := Except CallFailure Value

mutual

/-- What is told the outcome of a call. -/
inductive Callback where
  /-- Puts the outcome into the mailbox of the call's handle. -/
  | mailbox
  /-- Notes the outcome and then acts. An owner keeps the client alive until it has run. -/
  | script (label : String) (actions : List Action) (owner : Bool)
  deriving Repr

/-- What a script does with its client. -/
inductive Action where
  | dispatch (method : String) (params : Value) (callback : Callback)
  | cancel (id : Int)
  | close
  | restart
  | countPending
  deriving Repr

end

instance : Inhabited Callback := ⟨.mailbox⟩

/-- Whether a callback holds a reference to the client. -/
def Callback.isOwner : Callback → Bool
  | .mailbox => false
  | .script _ _ owner => owner

mutual

/-- A bound on the steps that the completion of a call with this callback causes. -/
def Callback.weight : Callback → Nat
  | .mailbox => 2
  | .script _ actions _ => 10 + Action.weights actions

def Action.weights : List Action → Nat
  | [] => 0
  | a :: rest => 10 + a.weight + Action.weights rest

/-- A bound on the steps that an action causes. -/
def Action.weight : Action → Nat
  | .dispatch _ _ callback => 20 + callback.weight
  | .cancel _ => 5
  | .close => 10
  | .restart => 10
  | .countPending => 5

end

/-- An open call. -/
structure Entry where
  id : Int
  method : String
  /-- The instant of the registration, in nanoseconds. -/
  createdAt : Nat
  timeout : Option Timespan
  callback : Callback
  deriving Repr, Inhabited

namespace Entry

/-- The instant from which the call is overdue. -/
def deadline? (e : Entry) : Option Nat := e.timeout.bind (·.after? e.createdAt)

/-- Whether the deadline of the call can be told, if it has a timeout. -/
def isTimely (e : Entry) : Bool := e.timeout.isNone || e.deadline?.isSome

/-- Whether the call is overdue at an instant. -/
def isOverdue (e : Entry) (now : Nat) : Bool :=
  match e.deadline? with
  | some d => d ≤ now
  | none => false

/-- The failure of an overdue call. -/
def timeoutFailure (e : Entry) : CallFailure :=
  .timeout e.id ((e.timeout.map Timespan.cappedMillis).getD 0)

end Entry

end Switchboard.Client
