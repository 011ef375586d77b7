import Switchboard.Message
import Switchboard.Transport.Basic

/-!
# The scripted transport

A transport whose peer follows plans: one list of plans for its starts and one for the lines sent to
it. Without a plan an operation works in silence.
-/

namespace Switchboard

/-- What the peer does when it is started, or sent a line. -/
structure Plan where
  /-- The lines it writes. In each, the place of the id is filled with that of the request. -/
  lines : List String
  /-- The reason for which it then ends what it writes. -/
  ended : Option String
  failure : Option TransportFailure
  deriving Repr

namespace Plan

/-- A text with each mark replaced. -/
def fill (id : List Char) : List Char → List Char
  | '$' :: 'I' :: 'D' :: rest => id ++ fill id rest
  | c :: rest => c :: fill id rest
  | [] => []

/-- The id of the request that a line holds. -/
def requestId (line : String) : String :=
  match Message.parse line with
  | .ok (.request id _) => id.render
  | _ => ""

def reaction (p : Plan) (id : String) : Reaction where
  events := []
  arrivals :=
    p.lines.map (fun l => .line (String.ofList (fill id.toList l.toList))) ++
      p.ended.toList.map .ended
  failure := p.failure
  duration := 0

/-- A bound on the arrivals of a plan. -/
def budget (p : Plan) : Nat := p.lines.length + 1

end Plan

structure ScriptedPeer where
  isRunning : Bool
  /-- How often the peer was started. -/
  starts : Nat
  /-- The lines sent to it, the last first. -/
  sent : List String
  startPlans : List (Option Plan)
  sendPlans : List (Option Plan)
  pid : Option Nat
  deriving Repr, Inhabited

namespace ScriptedPeer

/-- A peer that was not started yet. -/
def idle (startPlans : List (Option Plan)) (pid : Option Nat) : ScriptedPeer :=
  { isRunning := false, starts := 0, sent := [], startPlans, sendPlans := [], pid }

def notRunning : TransportFailure :=
  .write (.fixed "NotConnected" "scripted generator is not running")

/-- Starts the peer. A start whose plan fails changes nothing else. -/
def start (p : ScriptedPeer) : ScriptedPeer × Reaction :=
  let plan := p.startPlans.head?.join
  let p := { p with startPlans := p.startPlans.tail }
  match plan.bind Plan.failure with
  | some f => (p, .refusal f)
  | none =>
    ({ p with isRunning := true, starts := p.starts + 1 },
      (plan.map (·.reaction "")).getD .silent)

def send (p : ScriptedPeer) (line : String) : ScriptedPeer × Reaction :=
  if p.isRunning then
    ({ p with sent := line :: p.sent, sendPlans := p.sendPlans.tail },
      (p.sendPlans.head?.join.map (·.reaction (Plan.requestId line))).getD .silent)
  else (p, .refusal notRunning)

def budgetOf (plans : List (Option Plan)) : Nat :=
  plans.foldr (fun p n => (p.map Plan.budget).getD 0 + n) 0

instance : Transport ScriptedPeer where
  start p _ := p.start
  restart p _ := p.start
  send p _ line := p.send line
  close p _ := ({ p with isRunning := false }, .silent)
  ended p := { p with isRunning := false }
  next _ _ := none
  isRunning p _ := p.isRunning
  pid := ScriptedPeer.pid
  budget p := budgetOf p.startPlans + budgetOf p.sendPlans

end ScriptedPeer

end Switchboard
