import Switchboard.Client.Journal
import Switchboard.Client.Table
import Switchboard.Config
import Switchboard.Telemetry.Config

/-!
# The state of a client

A client has its transport, the table of its open calls, the mailboxes of its handles and three
counters of what it could not use. The clock moves only when somebody waits.
-/

namespace Switchboard.Client

open Switchboard.Json

/-- What arrived and could not be used. -/
structure Tally where
  malformed : Nat
  unmatched : Nat
  unexpected : Nat
  deriving DecidableEq, Repr, Inhabited

namespace Tally

def zero : Tally := { malformed := 0, unmatched := 0, unexpected := 0 }

def total (t : Tally) : Nat := t.malformed + t.unmatched + t.unexpected

def describe (t : Tally) : String :=
  s!"AnomalyCounts \x7b malformed: {t.malformed}, unmatched: {t.unmatched}, " ++
    s!"unexpected: {t.unexpected} \x7d"

end Tally

/-- The mailbox of a handle: what became of its call, and whether that was taken already. -/
structure Mailbox where
  id : Int
  deadline : Option Nat
  outcome : Option Outcome
  finished : Bool
  deriving Repr, Inhabited

structure State (σ : Type) where
  options : ClientOptions
  transport : σ
  table : Table
  tally : Tally
  mailboxes : List Mailbox
  /-- How many references keep the client alive. It is closed when there are none. -/
  owners : Nat
  /-- Whether the client was closed for good. -/
  shut : Bool
  /-- Whether somebody holds the lock under which the peer is replaced. -/
  restarting : Bool
  /-- Whether deadlines are watched. -/
  watching : Bool
  /-- Whether overdue calls are being timed out. -/
  sweeping : Bool
  /-- Whether watching deadlines has failed. -/
  stalled : Bool
  /-- The current instant in nanoseconds. -/
  clock : Nat
  /-- What the last operation answered. -/
  reply : Reply
  journal : Journal

namespace State

variable {σ : Type}

@[simp] def note (s : State σ) (m : Mark) : State σ := { s with journal := m :: s.journal }

/-- Traces an event of the client. -/
@[simp] def trace (s : State σ) (level : Level) (message : String)
    (fields : List (String × FieldValue)) : State σ :=
  s.note (.traced { level, target := clientTarget, message, fields })

/-- Traces the events of the transport. -/
def report (s : State σ) (events : List Event) : State σ :=
  events.foldl (fun s e => s.note (.traced e)) s

/-- The events of the transport only lengthen the journal. -/
@[simp] theorem report_eq (s : State σ) (events : List Event) :
    s.report events = { s with journal := (events.map Mark.traced).reverse ++ s.journal } := by
  unfold report
  induction events generalizing s with
  | nil => rfl
  | cons e rest ih =>
    rw [List.foldl_cons, ih]
    simp

@[simp] def answer (s : State σ) (r : Reply) : State σ := { s with reply := r }

/-! ### Mailboxes -/

def mailbox? (s : State σ) (id : Int) : Option Mailbox := s.mailboxes.find? (·.id == id)

@[simp] def updateMailbox (s : State σ) (id : Int) (f : Mailbox → Mailbox) : State σ :=
  { s with mailboxes := s.mailboxes.map fun m => if m.id == id then f m else m }

/-- Puts an outcome into the mailbox of a call, if there still is one. -/
@[simp] def post (s : State σ) (id : Int) (o : Outcome) : State σ :=
  s.updateMailbox id fun m => { m with outcome := some o }

/-- Opens the mailbox of a call whose callback needs one. Its deadline, if a clock can show it, counts
from the instant at which the call was begun. -/
def openMailbox (s : State σ) (id : Int) (begun : Nat) : Callback → State σ
  | .mailbox =>
    let deadline := s.options.requestTimeout.bind (·.after? begun)
    { s with mailboxes := s.mailboxes ++ [{ id, deadline, outcome := none, finished := false }] }
  | .script .. => s

@[simp] def removeMailbox (s : State σ) (id : Int) : State σ :=
  { s with mailboxes := s.mailboxes.filter (·.id != id) }

/-! ### Counters -/

@[simp] def countMalformed (s : State σ) : State σ :=
  { s with tally := { s.tally with malformed := s.tally.malformed + 1 } }

@[simp] def countUnmatched (s : State σ) : State σ :=
  { s with tally := { s.tally with unmatched := s.tally.unmatched + 1 } }

@[simp] def countUnexpected (s : State σ) : State σ :=
  { s with tally := { s.tally with unexpected := s.tally.unexpected + 1 } }

end State

end Switchboard.Client
