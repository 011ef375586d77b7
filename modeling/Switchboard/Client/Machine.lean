import Switchboard.Client.State
import Switchboard.Message

/-!
# How a client works

Every operation of a client is a list of tasks, the agenda. A step does the first task, which may
put further tasks in front of the others: so a callback runs, with all that it does to the client,
before the operation goes on that completed its call. A task that needs the restart lock while it is
held cannot be done: the client waits for itself.
-/

namespace Switchboard.Client

open Switchboard.Json

inductive Task where
  /-- Opens a call as far as the restart policy allows, and sends it. -/
  | dispatch (method : String) (params : Value) (callback : Callback)
  /-- Goes on with a call, begun at an instant, after the peer was replaced for it. -/
  | proceed (begun : Nat) (method : String) (params : Value) (callback : Callback)
  | register (begun : Nat) (method : String) (params : Value) (callback : Callback)
  /-- Takes note of how the transport took the line of a call. -/
  | settle (id : Int) (method : String) (failure : Option TransportFailure)
  | cancel (id : Int)
  /-- Replaces the peer under the restart lock. -/
  | restart
  | replace
  | launch
  | reopen (failure : Option TransportFailure)
  | unlock
  /-- Closes the client for good. -/
  | close
  | closeTransport
  | arrive (arrival : Arrival)
  /-- Tells a callback the outcome of its call. -/
  | complete (id : Int) (callback : Callback) (outcome : Outcome)
  /-- Goes on with a script whose actions so far gave `replies`. -/
  | script (label : String) (outcome : Outcome) (actions : List Action) (replies : List Reply)
      (owner : Bool)
  /-- Ends one action of a script. -/
  | collect (label : String) (outcome : Outcome) (actions : List Action) (replies : List Reply)
      (owner : Bool)
  /-- Gives back one reference to the client. -/
  | release
  | answer (reply : Reply)
  | countPending
  /-- Times out the calls that are overdue at an instant. -/
  | sweep (now : Nat)
  | timeOut (entry : Entry)
  | endSweep (count : Nat)
  /-- Cancels the call of a handle that is given up. -/
  | abandon (id : Int)
  /-- Removes a handle that nobody holds any more. -/
  | forget (id : Int)
  /-- Waits on a handle until its outcome, its deadline or the given instant. -/
  | await (id : Int) (limit : Option Nat)
  /-- Times out the call of a handle that has waited for its deadline. -/
  | expire (id : Int) (deadline : Nat)
  /-- Takes the outcome out of a mailbox, if it is there. -/
  | take (id : Int)
  deriving Repr

def Action.task : Action → Task
  | .dispatch method params callback => .dispatch method params callback
  | .cancel id => .cancel id
  | .close => .close
  | .restart => .restart
  | .countPending => .countPending

/-- What is left to do about a callback that will never run. -/
def Callback.drop (c : Callback) : List Task := if c.isOwner then [.release] else []

/-- The reason for which calls after `close` fail. -/
def clientClosed : String := "client closed"

def alreadyTaken (id : Int) : CallFailure :=
  .invalidState s!"result of request {id} was already taken"

def Outcome.ofPayload : Payload → Outcome
  | .result v => .ok v
  | .error e => .error (.ofErrorObject e)

/-- An optional integer as a trace shows it. -/
def shownInt : Option Int → FieldValue
  | none => .shown "None"
  | some i => .shown s!"Some({i})"

namespace State

variable {σ : Type}

/-! ### Closing the table -/

/-- Closes the table; all open calls are to fail. -/
def closeTable (s : State σ) (reason : String) : State σ × List Task :=
  let (entries, table) := s.table.close reason
  let s := { s with table }.note (.closing reason)
  let s :=
    if entries.isEmpty then s
    else s.trace .debug "failing pending requests after transport closure"
      [("pending", .int entries.length), ("reason", .str reason)]
  (s, entries.map fun e => .complete e.id e.callback (.error (.closed reason)))

/-! ### Arrivals -/

/-- The milliseconds since a call was registered. -/
def elapsed (s : State σ) (e : Entry) : Int := (s.clock - e.createdAt) / 1000000

def receiveResponse (s : State σ) (id : Option Int) (payload : Payload) : State σ × List Task :=
  match id.bind s.table.take with
  | some (e, table) =>
    ({ s with table }.trace .debug "received response"
      [("id", .int e.id), ("method", .shown e.method), ("elapsed_ms", .int (s.elapsed e))],
      [.complete e.id e.callback (.ofPayload payload)])
  | none =>
    (s.countUnmatched.trace .warn "discarding response with no pending request"
      [("received", shownInt id)], [])

/-- Routes a line of the peer: a response to its call; all else is counted. -/
def receive (s : State σ) (line : String) : State σ × List Task :=
  match Message.parse line with
  | .ok (.response id payload) => s.receiveResponse id payload
  | .ok (.request id method) =>
    (s.countUnexpected.trace .warn "ignoring generator-initiated request"
      [("method", .shown method), ("id", .shown id.render)], [])
  | .ok (.notification method _) =>
    (s.countUnexpected.trace .debug "ignoring generator notification"
      [("method", .shown method)], [])
  | .error fault =>
    (s.countMalformed.trace .warn "discarding malformed line from generator"
      [("error", .shown fault.message), ("line_bytes", .int line.utf8ByteSize)], [])

def arrive [Transport σ] (s : State σ) (a : Arrival) : State σ × List Task :=
  let s := s.note (.arrived a)
  match a with
  | .line text => s.receive text
  | .discarded _ => (s.countMalformed, [])
  | .ended reason => { s with transport := Transport.ended s.transport }.closeTable reason

/-! ### Opening calls -/

/-- Refuses to open a call. -/
def refuse (s : State σ) (callback : Callback) (failure : CallFailure) : State σ × List Task :=
  (s, callback.drop ++ [.answer (.refused failure)])

/-- Applies the restart policy to a call: it is registered, refused, or waits for another peer. -/
def dispatch (s : State σ) (method : String) (params : Value) (callback : Callback) :
    Option (State σ × List Task) :=
  let s := if callback.isOwner then { s with owners := s.owners + 1 } else s
  match s.table.closed with
  | none => some (s, [.register s.clock method params callback])
  | some reason =>
    if s.shut then some (s.refuse callback (.closed reason))
    else match s.options.restart with
      | .manual => some (s.refuse callback (.closed reason))
      | .onDemand =>
        if s.restarting then none
        else some
          ({ s with restarting := true }.trace .debug "restarting closed transport on demand"
            [("reason", .shown reason)],
            [.replace, .unlock, .proceed s.clock method params callback])

/-- Goes on with a call if the peer was replaced. -/
def proceed (s : State σ) (begun : Nat) (method : String) (params : Value) (callback : Callback) :
    State σ × List Task :=
  match s.reply with
  | .refused failure => s.refuse callback failure
  | _ => (s, [.register begun method params callback])

def register [Transport σ] (s : State σ) (begun : Nat) (method : String) (params : Value)
    (callback : Callback) : State σ × List Task :=
  match s.table.register method s.clock s.options.requestTimeout callback with
  | .error reason => s.refuse callback (.closed reason)
  | .ok (id, table) =>
    let call : Request := { id, method, params }
    let s := ({ s with table }.openMailbox id begun callback).note (.registered call)
    let s := s.trace .debug "sending request" [("id", .int id), ("method", .str method)]
    let (transport, reaction) := Transport.send s.transport s.clock call.line
    (({ s with transport, clock := s.clock + reaction.duration }.report reaction.events).note
        (.transmitted call.line),
      reaction.arrivals.map .arrive ++ [.settle id method reaction.failure])

/-- A failure to send is the caller's only if nothing has completed the call meanwhile. -/
def settle (s : State σ) (id : Int) (method : String) :
    Option TransportFailure → State σ × List Task
  | none => (s.note (.accepted id), [.answer (.accepted id)])
  | some failure =>
    let s := s.trace .warn "failed to send request"
      [("id", .int id), ("method", .str method), ("error", .shown failure.message)]
    match s.table.take id with
    | some (e, table) =>
      let s := ({ s with table }.removeMailbox id).note (.withdrawn id (.transport failure))
      s.refuse e.callback (.transport failure)
    | none => (s.note (.accepted id), [.answer (.accepted id)])

/-! ### Ending calls -/

def cancel (s : State σ) (id : Int) : State σ × List Task :=
  let s := s.note (.cancelling id)
  match s.table.take id with
  | some (e, table) =>
    ({ s with table }.trace .debug "cancelling request"
      [("id", .int id), ("method", .shown e.method)],
      [.complete e.id e.callback (.error (.cancelled id)), .answer (.flag true)])
  | none => (s, [.answer (.flag false)])

def abandon (s : State σ) (id : Int) : State σ × List Task :=
  let s := s.note (.cancelling id)
  match s.table.take id with
  | some (e, table) =>
    ({ s with table },
      [.complete e.id e.callback (.error (.cancelled id)), .answer (.flag true)])
  | none => (s, [.answer (.flag false)])

def complete (s : State σ) (id : Int) (callback : Callback) (outcome : Outcome) :
    State σ × List Task :=
  let s := s.note (.completed id outcome)
  match callback with
  | .mailbox => (s.post id outcome, [])
  | .script label actions owner => (s, [.script label outcome actions [] owner])

/-- Does the next action of a script, or notes what came of it, after the script has given back the
client if it owns it. Without a client no action is done. -/
def script (s : State σ) (label : String) (outcome : Outcome) (actions : List Action)
    (replies : List Reply) (owner : Bool) : State σ × List Task :=
  match actions with
  | a :: rest =>
    if s.owners = 0 then (s.note (.scripted label outcome replies), [])
    else
      ({ s with owners := s.owners + 1 }, [a.task, .collect label outcome rest replies owner])
  | [] =>
    if owner then (s, [.release, .script label outcome [] replies false])
    else (s.note (.scripted label outcome replies), [])

/-- The last reference to a client closes it. -/
def release (s : State σ) : State σ × List Task :=
  ({ s with owners := s.owners - 1 }, if s.owners = 1 then [.close] else [])

/-! ### Replacing and closing the peer -/

def restart (s : State σ) : Option (State σ × List Task) :=
  if s.restarting then none else some ({ s with restarting := true }, [.replace, .unlock])

def replace (s : State σ) : State σ × List Task :=
  if s.shut then (s, [.answer (.refused (.closed clientClosed))])
  else
    let (s, tasks) := (s.trace .info "restarting generator" []).closeTable "generator restarting"
    (s, tasks ++ [.launch])

def launch [Transport σ] (s : State σ) : State σ × List Task :=
  let (transport, reaction) := Transport.restart s.transport s.clock
  (({ s with transport, clock := s.clock + reaction.duration }.report reaction.events).note
      .relaunched,
    reaction.arrivals.map .arrive ++ [.reopen reaction.failure])

def reopen (s : State σ) : Option TransportFailure → State σ × List Task
  | some failure => (s, [.answer (.refused (.transport failure))])
  | none => ({ s with table := s.table.reopen }.note .reopened, [.answer .done])

/-- Deadlines are not watched any more. A callback that ends this while overdue calls are timed out
lets that go on to its end. -/
def stopWatching (s : State σ) : State σ :=
  let s :=
    if s.watching && s.sweeping then s.trace .debug "watchdog stopped from its own thread" []
    else if s.stalled then s.trace .warn "deadline watchdog panicked" []
    else s
  { s with watching := false }

/-- Closes the client once. -/
def close (s : State σ) : State σ × List Task :=
  if s.shut then (s, [.answer .done])
  else
    let s := ({ s with shut := true }.note .shut).stopWatching
    let (s, tasks) := s.closeTable clientClosed
    (s, tasks ++ [.closeTransport, .answer .done])

def closeTransport [Transport σ] (s : State σ) : State σ × List Task :=
  let (transport, reaction) := Transport.close s.transport s.clock
  ({ s with transport, clock := s.clock + reaction.duration }.report reaction.events,
    reaction.arrivals.map .arrive)

/-! ### Deadlines -/

/-- Takes the overdue calls out of the table to time them out. If that fails, nothing is taken, and
deadlines are not watched any more. -/
def sweep (s : State σ) (now : Nat) : State σ × List Task :=
  match s.table.takeExpired now with
  | some (expired, table) =>
    ({ s with table, sweeping := true }.note (.sweeping now),
      expired.map .timeOut ++ [.endSweep expired.length])
  | none => ({ s with watching := false, stalled := s.stalled || s.watching }, [])

def timeOut (s : State σ) (e : Entry) : State σ × List Task :=
  (s.trace .warn "request timed out" [("id", .int e.id), ("method", .shown e.method)],
    [.complete e.id e.callback (.error e.timeoutFailure)])

def endSweep (s : State σ) (count : Nat) : State σ × List Task :=
  let s := { s with sweeping := false }
  (if count = 0 then s
    else s.trace .debug "deadline sweep expired requests" [("expired", .int count)], [])

/-! ### Waiting -/

/-- The earliest deadline of an open call. -/
def firstDeadline? (s : State σ) : Option Nat := (s.table.entries.filterMap Entry.deadline?).min?

/-- The instant at which overdue calls are timed out next, if deadlines are watched. A sweep that
fails is not put off. -/
def nextSweep? (s : State σ) : Option Nat :=
  if s.watching then
    if s.table.isTimely then s.firstDeadline?.map (max s.clock) else some s.clock
  else none

/-- What happens next by itself, with its instant: something arrives, or calls time out. -/
def upcoming? [Transport σ] (s : State σ) : Option (Nat × State σ × List Task) :=
  let sweep (t : Nat) := (t, { s with clock := t }, [Task.sweep t])
  let arrive (h : Happening σ) :=
    let t := max s.clock h.instant
    (t, { s with transport := h.transport, clock := t }, h.arrivals.map Task.arrive)
  match Transport.next s.transport s.clock, s.nextSweep? with
  | none, none => none
  | none, some t => some (sweep t)
  | some h, none => some (arrive h)
  | some h, some t => some (if t < h.instant then sweep t else arrive h)

/-- Whether an instant comes before the end of waiting: the deadline of the handle, or the limit. -/
def isAwaited (deadline limit : Option Nat) (t : Nat) : Bool :=
  (match deadline with
    | some d => t < d
    | none => true) &&
  match limit with
  | some l => t ≤ l
  | none => true

/-- Ends waiting on an open call: at the deadline the call times out, at the limit it stays open. -/
def stopWaiting (s : State σ) (id : Int) (deadline limit : Option Nat) : State σ × List Task :=
  let expire (d : Nat) := ({ s with clock := max s.clock d }, [Task.expire id d, .take id])
  match deadline, limit with
  | some d, some l =>
    if d ≤ l then expire d else ({ s with clock := max s.clock l }, [.take id])
  | some d, none => expire d
  | none, some l => ({ s with clock := max s.clock l }, [.take id])
  | none, none => (s, [.take id])

def await [Transport σ] (s : State σ) (id : Int) (limit : Option Nat) : State σ × List Task :=
  match s.mailbox? id with
  | some { finished := false, outcome := none, deadline, .. } =>
    match s.upcoming? with
    | some (t, s', tasks) =>
      if isAwaited deadline limit t then (s', tasks ++ [.await id limit])
      else s.stopWaiting id deadline limit
    | none => s.stopWaiting id deadline limit
  | _ => (s, [.take id])

def expire (s : State σ) (id : Int) (deadline : Nat) : State σ × List Task :=
  let s := s.note (.waited id deadline)
  match s.table.take id with
  | some (e, table) => ({ s with table }, [.complete e.id e.callback (.error e.timeoutFailure)])
  | none => (s, [])

def take (s : State σ) (id : Int) : State σ :=
  match s.mailbox? id with
  | none => s.answer .pending
  | some m =>
    if m.finished then s.answer (.refused (alreadyTaken id))
    else match m.outcome with
      | none => s.answer .pending
      | some o => (s.updateMailbox id fun m => { m with finished := true }).answer (.outcome o)

/-! ### Steps -/

/-- Does a task. There is no result if the task waits for the restart lock. -/
def step [Transport σ] (s : State σ) : Task → Option (State σ × List Task)
  | .dispatch method params callback => s.dispatch method params callback
  | .proceed begun method params callback => some (s.proceed begun method params callback)
  | .register begun method params callback => some (s.register begun method params callback)
  | .settle id method failure => some (s.settle id method failure)
  | .cancel id => some (s.cancel id)
  | .restart => s.restart
  | .replace => some s.replace
  | .launch => some s.launch
  | .reopen failure => some (s.reopen failure)
  | .unlock => some ({ s with restarting := false }, [])
  | .close => some s.close
  | .closeTransport => some s.closeTransport
  | .arrive a => some (s.arrive a)
  | .complete id callback outcome => some (s.complete id callback outcome)
  | .script label outcome actions replies owner =>
    some (s.script label outcome actions replies owner)
  | .collect label outcome actions replies owner =>
    some (s, [.release, .script label outcome actions (replies ++ [s.reply]) owner])
  | .release => some s.release
  | .answer r => some (s.answer r, [])
  | .countPending => some (s.answer (.count s.table.size), [])
  | .sweep now => some (s.sweep now)
  | .timeOut e => some (s.timeOut e)
  | .endSweep count => some (s.endSweep count)
  | .abandon id => some (s.abandon id)
  | .forget id => some (s.removeMailbox id, [])
  | .await id limit => some (s.await id limit)
  | .expire id deadline => some (s.expire id deadline)
  | .take id => some (s.take id, [])

end State

/-! ### Runs -/

/-- A client at work: its state and what is left to do, in order. -/
structure Machine (σ : Type) where
  state : State σ
  agenda : List Task

namespace Machine

variable {σ : Type} [Transport σ]

/-- Does the first task. -/
def step (m : Machine σ) : Option (Machine σ) :=
  match m.agenda with
  | [] => none
  | t :: rest =>
    match m.state.step t with
    | some (s, tasks) => some { state := s, agenda := tasks ++ rest }
    | none => none

/-- At most `n` steps. -/
def run : Nat → Machine σ → Machine σ
  | 0, m => m
  | n + 1, m =>
    match m.step with
    | some m => run n m
    | none => m

end Machine

/-- A bound on the steps that a task causes, other than through open calls and arrivals. -/
def Task.weight : Task → Nat
  | .dispatch _ _ callback => 30 + callback.weight
  | .proceed _ _ _ callback => 20 + callback.weight
  | .register _ _ _ callback => 15 + callback.weight
  | .complete _ callback _ => 2 + callback.weight
  | .script _ _ actions _ _ => 10 + Action.weights actions
  | .collect _ _ actions _ _ => 18 + Action.weights actions
  | .timeOut e => 6 + e.callback.weight
  | _ => 10

/-- A bound on the steps that the completion of an open call causes. -/
def Entry.weight (e : Entry) : Nat := 12 + e.callback.weight

/-- The sum of the weights of some things. -/
def totalOf {α : Type} (weight : α → Nat) : List α → Nat
  | [] => 0
  | a :: rest => weight a + totalOf weight rest

/-- A bound on the steps of a machine. -/
def Machine.weight {σ : Type} [Transport σ] (m : Machine σ) : Nat :=
  totalOf Task.weight m.agenda + totalOf Entry.weight m.state.table.entries +
    10 * Transport.budget m.state.transport

namespace State

variable {σ : Type} [Transport σ]

/-- Does tasks with all that they cause. -/
def perform (s : State σ) (tasks : List Task) : State σ :=
  let m : Machine σ := { state := s, agenda := tasks }
  (m.run m.weight).state

/-- Lets the next thing happen that happens by itself, if there is one. -/
def passOne? (s : State σ) : Option (State σ) :=
  s.upcoming?.map fun (_, s, tasks) => s.perform tasks

/-- Lets time pass while a condition holds, for at most `n` things that happen by themselves. -/
def passWhile (goesOn : State σ → Bool) : (n : Nat) → State σ → State σ
  | 0, s => s
  | n + 1, s =>
    if goesOn s then
      match s.passOne? with
      | some s => passWhile goesOn n s
      | none => s
    else s

/-- A bound on what can happen to a client by itself. -/
def bound (s : State σ) : Nat := (Machine.mk s []).weight + 1

/-- Lets all watched deadlines pass, also those of calls that callbacks open meanwhile. -/
def passDeadlines (s : State σ) : State σ := s.passWhile (·.nextSweep?.isSome) s.bound

end State

/-- A client on a transport that was not started yet. -/
def initial {σ : Type} (options : ClientOptions) (transport : σ) : State σ where
  options := options
  transport := transport
  table := .empty
  tally := .zero
  mailboxes := []
  owners := 1
  shut := false
  restarting := false
  watching := options.requestTimeout.isSome
  sweeping := false
  stalled := false
  clock := 0
  reply := .done
  journal := []

/-- Starts the transport of a client. There is no client if that fails. -/
def connect {σ : Type} [Transport σ] (options : ClientOptions) (transport : σ) :
    Except (TransportFailure × Journal) (State σ) :=
  let (started, reaction) := Transport.start transport 0
  let s := ((initial options started).report reaction.events).perform
    (reaction.arrivals.map .arrive)
  match reaction.failure with
  | some failure => .error (failure, s.journal)
  | none =>
    .ok (s.trace .info "rpc client connected"
      [("pid", shownInt ((Transport.pid s.transport).map Int.ofNat)),
       ("timeout_ms", shownInt (options.requestTimeout.map fun t => (t.millis : Int)))])

end Switchboard.Client
