import Switchboard.Process.Behaviour
import Switchboard.Process.Milestone
import Switchboard.Transport.Framing

/-!
# The process transport

The transport owns one process at a time. The process is spawned by the first `start`; once it ended
or was closed, only `restart` spawns another, or a `start` after a `restart` that could not. A reader
follows the output of each process; only the reader of the latest one is heard.
-/

namespace Switchboard

/-- The reader of a process's output: how many pieces of it were taken, the line that is being read,
and whether the end was reported. -/
structure OutputReader where
  taken : Nat
  scan : LineScan
  finished : Bool
  deriving Repr, Inhabited

def OutputReader.start : OutputReader := { taken := 0, scan := .start, finished := false }

/-- A process with the reader of its output. `view` is what was seen of the process last, as long as
nothing was done to it since. -/
structure Running where
  child : Child
  generation : Nat
  reader : OutputReader
  view : Option Observation

/-- How long the reader waits for the process to end after its output ended. -/
def exitWindow : Nat := 100000000

/-- How many times one looks ahead for what a process does next, and how far at first. -/
def looks : Nat := 14
def firstLook : Nat := 10000000

/-- A bound on the pieces of output that are read in one go. -/
def patience : Nat := 100000

/-- What a reader meets next, with its instant: a piece of output, or the end. -/
inductive Sight where
  | piece (instant : Nat) (bytes : Bytes)
  | ending (instant : Nat)
  deriving Repr

def Sight.instant : Sight → Nat
  | .piece t _ => t
  | .ending t => t

/-- What a reader meets next in what is seen of its process. -/
def OutputReader.sight? (r : OutputReader) (o : Observation) : Option Sight :=
  if r.finished then none
  else match o.output[r.taken]? with
    | some (t, bytes) => some (.piece t bytes)
    | none => o.outputEnd.map .ending

def Running.stimulate (p : Running) (f : Stimuli → Stimuli) : Running :=
  { p with child := p.child.stimulate f, view := none }

/-- What the reader of a process meets next, and the process with the view in which this is found.
-/
def Running.next? (p : Running) (now : Nat) : Option (Sight × Running) :=
  let seen (o : Observation) := (p.reader.sight? o).map fun s => (s, { p with view := some o })
  (p.view.bind seen).or (p.child.search seen looks now firstLook)

/-- How a process ends within the time that the reader waits after the output's end. -/
def Running.observeExit (p : Running) (t : Nat) : Option (Nat × ExitStatus) :=
  (p.child.observe (t + exitWindow)).exit

/-- The reader after a piece of output or the end, and the lines that it has found. -/
def Running.read (p : Running) (limit : Nat) : Sight → Running × List Arrival
  | .piece _ bytes =>
    let (found, scan) := p.reader.scan.arrivals limit bytes
    ({ p with reader := { p.reader with taken := p.reader.taken + 1, scan } }, found)
  | .ending _ =>
    ({ p with reader := { p.reader with finished := true } },
      p.reader.scan.atEnd.arrival?.toList)

/-- When the reader of a process has met the end of the output, if it has. -/
def Running.finish? (p : Running) (now : Nat) : Option Nat :=
  if p.reader.finished then (p.child.observe now).outputEnd else none

inductive ProcessState where
  | notStarted
  | running (process : Running)
  | stopped

structure ProcessTransport where
  system : System
  config : ProcessConfig
  state : ProcessState
  /-- A process that was stopped and whose output is still being read. -/
  retired : Option Running
  /-- The generation of the process whose input is open to be written to. -/
  writer : Option Nat
  /-- How the latest process ended, once that was seen. -/
  exitStatus : Option ExitStatus
  /-- How often a process was spawned. -/
  generation : Nat
  /-- How often spawning was tried. -/
  attempts : Nat
  /-- What was done about processes, the first first. -/
  history : List Milestone

namespace ProcessTransport

def new (system : System) (config : ProcessConfig) : ProcessTransport :=
  { system, config, state := .notStarted, retired := none, writer := none, exitStatus := none,
    generation := 0, attempts := 0, history := [] }

/-! ### Reading -/

/-- What the reader of the current process does next. -/
def nextRunning (t : ProcessTransport) (p : Running) (now : Nat) :
    Option (Happening ProcessTransport) :=
  (p.next? now).map fun (sight, p) =>
    let (p', found) := p.read t.config.maxLineBytes sight
    match sight with
    | .piece instant _ =>
      { instant, transport := { t with state := .running p' }, arrivals := found }
    | .ending instant =>
      let ended (at_ : Nat) (status : Option ExitStatus) : Happening ProcessTransport :=
        { instant := at_
          transport := { t with state := .running p', exitStatus := status.or t.exitStatus }
          arrivals := found ++ [.ended (withStatus endReason status)] }
      match p.observeExit instant with
      | some (at_, status) => ended (max instant at_) (some status)
      | none => ended (instant + exitWindow) none

/-- What the reader of a stopped process does next. -/
def nextRetired (t : ProcessTransport) (p : Running) (now : Nat) :
    Option (Happening ProcessTransport) :=
  (p.next? now).map fun (sight, p) =>
    let (p', found) := p.read t.config.maxLineBytes sight
    let ending := match sight with
      | .piece .. => []
      | .ending _ => [.ended (withStatus endReason t.exitStatus)]
    { instant := sight.instant, transport := { t with retired := some p' }
      arrivals := found ++ ending }

/-- What happens next by itself. -/
def next (t : ProcessTransport) (now : Nat) : Option (Happening ProcessTransport) :=
  match t.state, t.retired with
  | .running p, _ => t.nextRunning p now
  | _, some p => t.nextRetired p now
  | _, none => none

/-- Everything that a retired process still writes up to an instant. -/
def drain (t : ProcessTransport) (now limit : Nat) : (n : Nat) → ProcessTransport × List Arrival
  | 0 => (t, [])
  | n + 1 =>
    match t.next now with
    | none => (t, [])
    | some h =>
      if h.instant ≤ limit then
        let (t, rest) := drain h.transport now limit n
        (t, h.arrivals ++ rest)
      else (t, [])

/-! ### Starting and stopping -/

def launchFailure (command : String) (e : SystemError) : TransportFailure :=
  if e = .notFound then .executableNotFound command e
  else .launch command "failed to start process" e

def record (t : ProcessTransport) (milestones : List Milestone) : ProcessTransport :=
  { t with history := t.history ++ milestones }

/-- The events of what a transport has done since it was in an earlier state. -/
def eventsSince (earlier t : ProcessTransport) : List Event :=
  (t.history.drop earlier.history.length).map (·.event t.config)

/-- What the process that was stopped last has left behind. -/
def remnants (t : ProcessTransport) (now : Nat) : Remnants :=
  (t.retired.map fun p => (p.child.observe now).remnants).getD []

/-- Spawns the process. -/
def spawn (t : ProcessTransport) (now : Nat) : ProcessTransport × Option TransportFailure :=
  let t := { t with attempts := t.attempts + 1 }.record [.spawning]
  match t.system t.attempts (t.remnants now) t.config with
  | .error e => (t, some (launchFailure t.config.commandLine e))
  | .ok behaviour =>
    let process : Running :=
      { child := .spawn behaviour now, generation := t.generation + 1, reader := .start
        view := none }
    ({ t with
      state := .running process
      retired := none
      writer := some process.generation
      exitStatus := none
      generation := t.generation + 1 }.record [.spawned process.generation], none)

/-- How a process was ended. -/
structure Termination where
  process : Running
  /-- When it had ended, or was given up. -/
  done : Nat
  status : Option ExitStatus
  milestones : List Milestone

/-- Ends a process: it has ended already, or it is told to end, or, after a time of grace, it is
killed. The time of grace is taken to end at an instant that clocks show. It does so for every span
that a document can hold. -/
def terminate (p : Running) (grace now : Nat) : Termination :=
  match (p.child.observe now).exitBy? now with
  | some status =>
    { process := p, done := now, status, milestones := [.foundEnded p.generation status] }
  | none =>
    let told := p.stimulate (·.signal now .terminate)
    match (told.child.observe (now + grace)).exit with
    | some (t, status) =>
      { process := told, done := max now t, status
        milestones := [.endedInGrace p.generation status] }
    | none =>
      let killed := told.stimulate (·.signal (now + grace) .kill)
      let milestones := [.killing p.generation]
      match (killed.child.observe (now + grace)).exit with
      | some (t, status) => { process := killed, done := max (now + grace) t, status, milestones }
      | none => { process := killed, done := now + grace, status := none, milestones }

/-- Ends the current process, if there is one, and leaves a state in its place. What was written
before is read, and the reader is given the time of grace again to come to an end, and so is the
reader of the error output, if there is one, after it. -/
def shutdown (t : ProcessTransport) (now : Nat) (left : ProcessState) :
    ProcessTransport × List Arrival × Nat :=
  let t := { t with writer := none }
  let (t, early) := t.drain now now patience
  match t.state with
  | .running p =>
    let grace := t.config.shutdownGrace.nanos
    let termination := terminate (p.stimulate (·.closeInput now)) grace now
    let t := { t with state := left, retired := some termination.process }.record
      (.stopping p.generation :: termination.milestones)
    let done := termination.done
    let limit := if t.config.stderr = .log then done + 2 * grace else done + grace
    let (t, found) := if grace = 0 then (t, []) else t.drain now limit patience
    let joined := ((t.retired.bind fun p => p.finish? limit).map (max done)).getD limit
    ({ t with exitStatus := termination.status.or t.exitStatus }, early ++ found, joined - now)
  | _ => ({ t with state := left }, early, 0)

/-! ### Operations -/

def exitedReason (status : ExitStatus) : String :=
  "generator exited (" ++ status.describe ++ "); restart required"

def stoppedReason : String := "transport was closed; restart required"

def start (t : ProcessTransport) (now : Nat) : ProcessTransport × Reaction :=
  match t.state with
  | .notStarted =>
    let (t', failure) := t.spawn now
    (t', { Reaction.silent with events := t.eventsSince t', failure })
  | .running p =>
    match (p.child.observe now).exitBy? now with
    | none => (t, .silent)
    | some status => (t, .refusal (.closed (exitedReason status)))
  | .stopped => (t, .refusal (.closed stoppedReason))

def restart (t : ProcessTransport) (now : Nat) : ProcessTransport × Reaction :=
  let (t', arrivals, duration) := t.shutdown now .notStarted
  let (t', failure) := t'.spawn (now + duration)
  (t', { events := t.eventsSince t', arrivals, failure, duration })

def inputClosed : TransportFailure := .write (.reported "BrokenPipe" "generator input is closed")

def send (t : ProcessTransport) (now : Nat) (line : String) : ProcessTransport × Reaction :=
  match t.writer, t.state with
  | some generation, .running p =>
    if generation ≠ p.generation then (t, .refusal inputClosed)
    else if (p.child.observe now).isDeaf now then (t, .refusal (.write .brokenPipe))
    else
      let p := p.stimulate (·.write now (encodeText line ++ [newline]))
      ({ t with state := .running p }, .silent)
  | _, _ => if t.generation = 0 then (t, .refusal .notStarted) else (t, .refusal inputClosed)

def close (t : ProcessTransport) (now : Nat) : ProcessTransport × Reaction :=
  let (t', arrivals, duration) := t.shutdown now .stopped
  (t', { events := t.eventsSince t', arrivals, failure := none, duration })

/-- Ends the process of a transport that is given up. -/
def giveUp (t : ProcessTransport) (now : Nat) : ProcessTransport := (t.shutdown now .stopped).1

def isRunning (t : ProcessTransport) (now : Nat) : Bool :=
  match t.state with
  | .running p => ((p.child.observe now).exitBy? now).isNone
  | _ => false

/-- Processes are numbered in the order of their spawning. -/
def pid (t : ProcessTransport) : Option Nat :=
  match t.state with
  | .running p => some p.generation
  | _ => none

instance : Transport ProcessTransport where
  start := start
  restart := restart
  send := send
  close := close
  ended t := t
  next := next
  isRunning := isRunning
  pid := pid
  budget _ := patience

/-- The transport as reports show it. -/
def describe (t : ProcessTransport) (pid : String) : String :=
  let state := match t.state with
    | .notStarted => "not_started"
    | .running _ => "running (pid: " ++ pid ++ ")"
    | .stopped => "stopped"
  "ProcessTransport \x7b command: " ++ Text.Quoted.quote t.config.commandLine ++ ", state: " ++
    Text.Quoted.quote state ++ " \x7d"

end ProcessTransport

end Switchboard
