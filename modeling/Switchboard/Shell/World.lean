import Switchboard.Process.Behaviour
import Switchboard.Shell.Locations
import Switchboard.Transport.Framing

/-!
# The world of a script

A script runs in a world of input flows, outputs and signals. Each of its threads has an instant of
its own; work takes no time, only waiting does. Waiting for what has not happened yet, or lies
beyond the horizon, stops the thread.
-/

namespace Switchboard.Shell

def charsOfBytes (bytes : List UInt8) : Chars := bytes.map fun b => Char.ofNat b.toNat

def bytesOfChars (cs : Chars) : List UInt8 := cs.map fun c => UInt8.ofNat c.toNat

/-- What can be read from an input: pieces with the instants of their arrival, and the instant of
the end. `wake` is an instant at which its writer goes on. -/
structure Flow where
  pieces : List (Nat × Chars)
  ended : Option Nat
  wake : Option Nat
  /-- Whether it is a file, in which one can go back. -/
  isFile : Bool := false
  /-- Whether the first piece was read already by the program that is at work. -/
  isHeld : Bool := false
  deriving Inhabited

/-- Where a descriptor leads. -/
inductive Channel where
  | input (flow : Nat)
  | output (sink : Nat)
  | closed
  deriving DecidableEq, Repr

/-- The sinks of output: nothing, the output of the process and its error output. -/
def nullSink : Nat := 0
def outputSink : Nat := 1
def errorSink : Nat := 2

structure Written where
  sink : Nat
  instant : Nat
  owner : Nat
  text : Chars

/-- What a script has made at a path, or taken away that is there otherwise. -/
structure Made where
  path : String
  /-- Since when it is so. -/
  since : Nat
  /-- The sink that holds the text of a file; a directory has none. -/
  sink : Option Nat
  isGone : Bool := false

/-- A command that runs in the background. -/
structure Job where
  number : Nat
  finish : Option Nat
  status : Nat
  /-- The signals that have ended its processes. -/
  signals : List Nat
  wake : Option Nat
  holdsOutput : Bool
  /-- The place in the list of jobs, counted from 1; it becomes free when the end was told. -/
  place : Nat
  /-- How many commands run side by side in it. -/
  members : Nat
  /-- Whether the shell has seen its end while it waited for something else. -/
  isSeen : Bool
  /-- Whether it was waited for, so that its place is free for the next process. -/
  isAwaited : Bool
  /-- Whether its end was told. -/
  isTold : Bool

structure World where
  clock : Nat
  horizon : Nat
  flows : List Flow
  /-- How many pieces were read. -/
  reads : Nat
  /-- What was written, the last first. -/
  written : List Written
  /-- Who reads the error output, if it is drained. -/
  errorReader : Option ErrorReader
  sinks : Nat
  /-- What the script has made, the last first. -/
  made : List Made
  signals : List (Nat × Signal)
  /-- The signals that the script has sent to its own process. -/
  ownSignals : List Signal
  /-- The processes that have not ended, apart from the main one and jobs, and the signals that were
  sent to them. -/
  alive : List Nat
  sentSignals : List (Nat × Nat)
  exit : Option (Nat × ExitStatus)
  jobs : List Job
  /-- How many processes were started that are no jobs. -/
  processes : Nat
  /-- The number of the job that runs, 0 for the main thread. -/
  owner : Nat
  /-- When the main thread let go of its output and of its input. -/
  outputRelease : Option Nat
  inputRelease : Option Nat
  /-- A command that outlives the main thread: its end, if that is known. -/
  orphan : Option (Option Nat)
  orphanWake : Option Nat

/-- What a trap does with a signal. -/
inductive Trap where
  | ignore
  | run (action : Chars)
  deriving DecidableEq, Repr

/-- What the caller of a function gets back of a variable that the function has made its own. -/
structure Kept where
  name : Chars
  value : Option Chars
  isExported : Bool
  isFixed : Bool

/-- The state of a thread. -/
structure Thread where
  vars : List (Chars × Chars)
  /-- The names of the variables that programs get. -/
  exported : List Chars
  /-- The names of the variables that do not change any more. -/
  fixed : List Chars
  zero : Chars
  arguments : List Chars
  /-- The options that are set, by their letters. -/
  options : List Char
  /-- Whether the status of what runs is looked at, so that a failure is not the end. -/
  tested : Bool
  channels : List (Nat × Channel)
  traps : List (Nat × Trap)
  /-- The actions of traps that wait for a command to end. -/
  waiting : List Chars
  status : Nat
  /-- The status of the last script whose output was put into the command at work. -/
  captured : Nat
  functions : List (Chars × Command)
  /-- The texts that stand for the names of commands, in the order in which they were given. -/
  aliases : List (Chars × Chars)
  directory : Chars
  mask : Nat
  /-- The number that the shell of the thread goes by. -/
  number : Nat
  /-- The number of the process that the thread is, and of the one that has started it. -/
  process : Nat
  parent : Nat
  /-- The signals that have ended processes of which nothing was said yet, with the descriptor on
  which it is said. -/
  fallen : List (Nat × Option Channel)
  /-- How many loops the thread is in. -/
  loops : Nat
  /-- How many functions the thread is in. -/
  calls : Nat
  /-- The variables of the function that runs, as they are outside of it. -/
  locals : List Kept
  /-- The options outside of the function, if it has options of its own. -/
  keptOptions : Option (List Char)
  /-- The line of the script that runs, and the command in it that is part of the shell. -/
  line : Nat
  command : Option Chars
  /-- The argument that is read next as options, and how much of the one before was read. -/
  optionPlace : Nat × Nat
  /-- The status before the action of a trap that runs. -/
  outerStatus : Option Nat
  /-- Whether this is the main thread, which gets the signals. -/
  isMain : Bool
  lastJob : Option Nat

structure State where
  world : World
  thread : Thread

/-- Why a thread does not go on. -/
inductive Stop where
  | exit (code : Nat)
  /-- It cannot go on, unless a command that may fail was at work. -/
  | failed (code : Nat)
  /-- The main thread was killed. -/
  | killed
  /-- A signal that its own doing has brought about has ended a process. -/
  | fallen (signal : Nat)
  /-- It waits, at most up to the given instant. -/
  | suspended (wake : Option Nat)
  /-- It leaves loops. -/
  | leave (loops : Nat)
  /-- It leaves loops and goes on with the last of them. -/
  | again (loops : Nat)
  | return_ (code : Nat)
  deriving DecidableEq, Repr

abbrev Run := ExceptT Stop (StateM State)

def getWorld : Run World := do return (← get).world

def getThread : Run Thread := do return (← get).thread

def changeWorld (f : World → World) : Run Unit := modify fun s => { s with world := f s.world }

def changeThread (f : Thread → Thread) : Run Unit := modify fun s => { s with thread := f s.thread }

def setStatus (code : Nat) : Run Unit := changeThread fun t => { t with status := code }

/-- The earlier of two instants of which each may be missing. -/
def earlier : Option Nat → Option Nat → Option Nat
  | some a, some b => some (min a b)
  | a, b => a.or b

/-! ### Traps -/

/-- The signals that do nothing to a process that has no trap for them. -/
def harmlessSignals : List Nat := [17, 18, 23, 28]

def Thread.trapOf (t : Thread) (s : Signal) : Option Trap :=
  if s = .kill then none
  else
    let usual := if harmlessSignals.contains s.number then some .ignore else none
    (t.traps.lookup s.number).or usual

/-! ### Writing -/

/-- Tells a thread that nobody reads what it writes. -/
def breakPipe : Run Unit := do
  let t ← getThread
  match t.trapOf .brokenPipe with
  | some .ignore => return ()
  | some (.run action) =>
    if !t.waiting.contains action then
      changeThread fun t => { t with waiting := t.waiting ++ [action] }
  | none => throw (.fallen Signal.brokenPipe.number)

/-- Writes to the error output; `false` says that nobody reads it any more. -/
def writeToErrors (text : Chars) : Run Bool := do
  let w ← getWorld
  match w.errorReader with
  | none => return true
  | some reader =>
    if reader.isGone w.clock then
      breakPipe
      return false
    changeWorld fun w =>
      { w with errorReader := some (reader.feed w.clock (bytesOfChars text)) }
    return true

/-- Writes to a descriptor; `false` says that it is closed. -/
def writeTo (fd : Nat) (text : Chars) : Run Bool := do
  let t ← getThread
  match t.channels.lookup fd with
  | some (.output sink) =>
    if text.isEmpty || sink == nullSink then return true
    if sink == errorSink then return ← writeToErrors text
    changeWorld fun w =>
      { w with written := { sink, instant := w.clock, owner := w.owner, text } :: w.written }
    return true
  | _ => return false

/-- Says what is wrong, on the descriptor for errors. -/
def complain (message : Chars) : Run Unit := do
  let t ← getThread
  let command := match t.command with
    | some name => name ++ [':', ' ']
    | none => []
  let place := (toString t.line).toList ++ [':', ' ']
  let _ ← writeTo 2 (t.zero ++ [':', ' '] ++ place ++ command ++ message ++ ['\n'])

/-- Says what is wrong and does not go on. -/
def fail {α : Type} (message : Chars) : Run α := do
  complain message
  throw (.failed 2)

/-- Says what is wrong with a name and does not go on. -/
def failAt {α : Type} (name : Chars) (message : String) : Run α :=
  fail (name ++ ": ".toList ++ message.toList)

/-- Puts a channel in the place of a descriptor's. -/
def Thread.setChannel (t : Thread) (fd : Nat) (c : Channel) : Thread :=
  { t with channels := (fd, c) :: t.channels.filter (·.1 != fd) }

def Thread.holds (t : Thread) (c : Channel) : Bool := t.channels.any (·.2 == c)

/-- What was written to a sink, in the order of the instants. -/
def World.collected (w : World) (sink : Nat) : List (Nat × Chars) :=
  let found := (w.written.filter (·.sink == sink)).reverse.map fun e => (e.instant, e.text)
  found.mergeSort fun a b => a.1 ≤ b.1

/-! ### Paths -/

/-- What the script has made, as far as it is there. -/
def World.tree (w : World) : Tree :=
  (w.made.filter fun m => decide (m.since ≤ w.clock)).map fun m =>
    (m.path, if m.isGone then .missing else if m.sink.isSome then .file else .directory)

/-- What a path leads to, with the path that names it. -/
def find (path : Chars) : Run (String × Location) := do
  return Location.find (← getWorld).tree (String.ofList (← getThread).directory)
    (String.ofList path)

/-- What a path leads to. -/
def locate (path : Chars) : Run Location := do return (← find path).2

/-- The directories in which a program without a path is looked for. -/
def Thread.searched (t : Thread) : List String :=
  match t.vars.lookup "PATH".toList with
  | some path => (path.splitOn ':').map fun d => if d.isEmpty then "." else String.ofList d
  | none => Layout.searched

/-- What the name of a command leads to. -/
def locateCommand (name : Chars) : Run Location := do
  let t ← getThread
  return Location.ofCommand (← getWorld).tree t.searched (String.ofList t.directory)
    (String.ofList name)

/-! ### Waiting -/

/-- The number of the main process. -/
def mainNumber : Nat := 4711

/-- How a thread waits: the shell itself, which a trap interrupts, the shell for a command, after
which the trap runs, or a command that the process has become. -/
inductive Waiting where
  | shell
  | command (holdsOutput : Bool)
  | program
  deriving DecidableEq, Repr

/-- The signals that come before an instant, up to the horizon. -/
def World.signalsBefore (w : World) (limit : Option Nat) : List (Nat × Signal) :=
  w.signals.filter fun (s, _) =>
    s ≤ w.horizon && match limit with
      | some l => s < l
      | none => true

/-- Meets signals one after the other. The answer is whether a trap has interrupted the waiting: the
trap comes an instant after the signal, so that no time of grace is too short to tell the two apart.
-/
def meetSignals (mode : Waiting) (finish wake : Option Nat) : List (Nat × Signal) → Run Bool
  | [] => return false
  | (at_, signal) :: rest => do
    changeWorld fun w => { w with signals := w.signals.erase (at_, signal) }
    let t ← getThread
    match t.trapOf signal, mode with
    | some .ignore, _ => meetSignals mode finish wake rest
    | some (.run action), .shell =>
      changeWorld fun w => { w with clock := max w.clock (at_ + 1) }
      changeThread fun t => { t with waiting := t.waiting ++ [action] }
      return true
    | some (.run action), .command _ =>
      changeThread fun t => { t with waiting := t.waiting ++ [action] }
      meetSignals mode finish wake rest
    | _, _ =>
      let outlives := match mode with
        | .command holdsOutput => holdsOutput
        | _ => false
      changeWorld fun w =>
        { w with
          clock := max w.clock at_
          exit := some (max w.clock at_, .signal signal)
          orphan := if outlives then some finish else none
          orphanWake := if outlives then wake else none }
      throw .killed

/-- Waits up to an instant, or without an end. The answer is whether a trap has interrupted the
waiting. -/
def pause (mode : Waiting) (target wake : Option Nat) : Run Bool := do
  let w ← getWorld
  let t ← getThread
  let interrupted ←
    if t.isMain then meetSignals mode target wake (w.signalsBefore target)
    else pure false
  if interrupted then return true
  match target with
  | some at_ =>
    if at_ ≤ w.horizon then
      changeWorld fun w => { w with clock := max w.clock at_ }
      return false
    else throw (.suspended (some at_))
  | none => throw (.suspended wake)

/-! ### Reading -/

/-- The next piece of an input, once it is there, or nothing at its end. -/
def nextPiece (mode : Waiting) (fd : Nat) : Run (Option Chars × Bool) := do
  let t ← getThread
  match t.channels.lookup fd with
  | some (.input i) => do
    let w ← getWorld
    let flow := w.flows.getD i { pieces := [], ended := some 0, wake := none }
    match flow.pieces, flow.ended with
    | (at_, text) :: rest, _ =>
      if ← pause mode (some at_) none then return (none, true)
      changeWorld fun w =>
        { w with flows := w.flows.set i { flow with pieces := rest }, reads := w.reads + 1 }
      return (some text, false)
    | [], some at_ =>
      let interrupted ← pause mode (some at_) none
      return (none, interrupted)
    | [], none =>
      let interrupted ← pause mode none flow.wake
      return (none, interrupted)
  | _ => return (none, false)

/-- The next piece of an input, with all that has come by then. -/
def nextBlock (mode : Waiting) (fd : Nat) : Run (Option Chars × Bool) := do
  let t ← getThread
  match t.channels.lookup fd with
  | some (.input i) => do
    let held := (((← getWorld).flows[i]?).map Flow.isHeld).getD false
    match ← nextPiece mode fd with
    | (some text, interrupted) => do
      let w ← getWorld
      match w.flows[i]? with
      | none => return (some text, interrupted)
      | some flow =>
        let (come, later) :=
          if held then ([], flow.pieces) else flow.pieces.span fun p => decide (p.1 ≤ w.clock)
        changeWorld fun w =>
          { w with
            flows := w.flows.set i { flow with pieces := later, isHeld := false }
            reads := w.reads + come.length }
        let all := if come.isEmpty then text else text ++ come.flatMap Prod.snd
        return (some all, interrupted)
    | result => return result
  | _ => return (none, false)

/-- Gives back what was read too much; `isHeld` says that it stays with the program that has read
it. -/
def giveBack (isHeld : Bool) (fd : Nat) (text : Chars) : Run Unit := do
  if text.isEmpty then return ()
  let t ← getThread
  match t.channels.lookup fd with
  | some (.input i) =>
    changeWorld fun w =>
      match w.flows[i]? with
      | some flow =>
        { w with
          flows := w.flows.set i { flow with pieces := (w.clock, text) :: flow.pieces, isHeld } }
      | none => w
  | _ => return ()

/-- Takes away what the program at work has read too much, unless it can go back. -/
def loseHeld (fd : Nat) : Run Unit := do
  let t ← getThread
  match t.channels.lookup fd with
  | some (.input i) =>
    changeWorld fun w =>
      match w.flows[i]? with
      | some flow =>
        if !flow.isHeld then w
        else
          let pieces := if flow.isFile then flow.pieces else flow.pieces.tail
          { w with flows := w.flows.set i { flow with pieces, isHeld := false } }
      | none => w
  | _ => return ()

/-- How a line was read: with its line break, only up to the end of the input, or not, because a
trap came in between. -/
inductive LineEnd where
  | complete
  | atEnd
  | interrupted
  deriving DecidableEq, Repr

/-- Reads a line, without its line break, in at most `n` pieces. Who reads in blocks keeps all that
has come; others take no more than the line. -/
def readInputLine (mode : Waiting) (inBlocks : Bool) (fd : Nat) : (n : Nat) → Chars →
    Run (Chars × LineEnd)
  | 0, sofar => return (sofar, .atEnd)
  | n + 1, sofar => do
    match ← if inBlocks then nextBlock mode fd else nextPiece mode fd with
    | (_, true) => return (sofar, .interrupted)
    | (none, false) => return (sofar, .atEnd)
    | (some text, false) =>
      match text.span (· ≠ '\n') with
      | (line, _ :: rest) =>
        giveBack inBlocks fd rest
        return (sofar ++ line, .complete)
      | (line, []) => readInputLine mode inBlocks fd n (sofar ++ line)

/-- Everything up to the end of an input, in at most `n` pieces, each handed on as it comes. -/
def forEachPiece (mode : Waiting) (fd : Nat) (f : Chars → Run Unit) : (n : Nat) → Run Unit
  | 0 => return ()
  | n + 1 => do
    match ← nextPiece mode fd with
    | (some text, _) => do
      f text
      forEachPiece mode fd f n
    | (none, _) => return ()

end Switchboard.Shell
