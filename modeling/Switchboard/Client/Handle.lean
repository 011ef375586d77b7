import Switchboard.Client.Machine

/-!
# Handles

A handle stands for one call whose outcome goes into a mailbox. It yields the outcome once, read as
the type that its caller declared; a handle that is given up before cancels its call.
-/

namespace Switchboard.Client

open Switchboard.Json

/-- The handle of a call whose result is read as an `α`. -/
structure Handle (α : Type) where
  id : Int
  decoder : Decoder α

/-- The outcome of a call, its result read by a decoder. -/
def Outcome.read {α : Type} (d : Decoder α) : Outcome → Except CallFailure α
  | .error failure => .error failure
  | .ok v =>
    match d.decode v with
    | .ok a => .ok a
    | .error e => .error (.ofJson e)

namespace Handle

variable {α σ : Type}

/-- What the last operation says of a handle's call: nothing while the call is open. -/
def reading (h : Handle α) : Reply → Option (Except CallFailure α)
  | .outcome o => some (Outcome.read h.decoder o)
  | .refused failure => some (.error failure)
  | _ => none

/-- Does tasks and reads what they answer about the handle's call. -/
def perform [Transport σ] (h : Handle α) (s : State σ) (tasks : List Task) :
    State σ × Option (Except CallFailure α) :=
  let s := s.perform tasks
  (s, h.reading s.reply)

/-- The outcome, if it is there. -/
def tryResult [Transport σ] (h : Handle α) (s : State σ) :
    State σ × Option (Except CallFailure α) :=
  h.perform s [.take h.id]

/-- Whether the outcome was taken. -/
def isFinished (h : Handle α) (s : State σ) : Bool := (s.mailbox? h.id).all Mailbox.finished

/-- Waits for the outcome, for a span of time at most. It does not come back if no clock shows the
end of the span. -/
def waitTimeout [Transport σ] (h : Handle α) (s : State σ) (span : Timespan) :
    Option (State σ × Option (Except CallFailure α)) :=
  if h.isFinished s then some (h.perform s [.take h.id])
  else (span.after? s.clock).map fun limit => h.perform s [.await h.id (some limit)]

/-- Waits for the outcome and uses up the handle. There is none if the call is open, has no deadline
and nobody is left to complete it. -/
def wait [Transport σ] (h : Handle α) (s : State σ) : State σ × Option (Except CallFailure α) :=
  let (s, result) := h.perform s [.await h.id none]
  (s.perform [.forget h.id], result)

/-- Gives up the handle. `true` says that the call was open. -/
def cancel [Transport σ] (h : Handle α) (s : State σ) : State σ × Bool :=
  let s := s.perform [.abandon h.id]
  (s.perform [.forget h.id],
    match s.reply with
    | .flag b => b
    | _ => false)

/-- Gives up the handle; the call is cancelled unless its outcome was taken. -/
def drop [Transport σ] (h : Handle α) (s : State σ) : State σ :=
  match s.mailbox? h.id with
  | some { finished := false, .. } => s.perform [.abandon h.id, .forget h.id]
  | _ => s.perform [.forget h.id]

/-- The handle as reports show it. -/
def describe (h : Handle α) (s : State σ) : String :=
  let (deadline, finished) := match s.mailbox? h.id with
    | some m => (m.deadline, m.finished)
    | none => (none, true)
  let shown := match deadline with
    | none => "None"
    | some d => s!"Some({d})"
  s!"ResponseHandle \x7b id: {h.id}, deadline: {shown}, finished: {finished}, .. \x7d"

end Handle

namespace State

variable {σ : Type} [Transport σ]

/-- Whether the deadline of a handle that is begun now can be told, if it is to have one. -/
def isTimely (s : State σ) : Bool :=
  s.options.requestTimeout.all fun t => (t.after? s.clock).isSome

/-- Opens a call with a handle for its result. It does not come back, and nothing is done, if the
deadline of the handle cannot be told. -/
def call {α : Type} (s : State σ) (method : String) (params : Value) (decoder : Decoder α) :
    State σ × Option (Except CallFailure (Handle α)) :=
  if s.isTimely then
    let s := s.perform [.dispatch method params .mailbox]
    (s,
      match s.reply with
      | .accepted id => some (.ok { id, decoder })
      | .refused failure => some (.error failure)
      | _ => some (.error (.closed clientClosed)))
  else (s, none)

end State

/-- The client as reports show it. -/
def State.describe {σ : Type} (s : State σ) : String :=
  "RpcClient \x7b options: " ++ s.options.describe ++ s!", pending: {s.table.size}, anomalies: " ++
    s.tally.describe ++ ", .. \x7d"

end Switchboard.Client
