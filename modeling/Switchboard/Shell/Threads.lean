import Switchboard.Shell.Expansion
import Switchboard.Shell.Signals

/-!
# Threads

A script runs in a thread. A command that has a process of its own runs in a thread of its own, from
the instant at which its parent started it; the parent then waits for its end. What runs the scripts
inside of commands is the first argument of each function, so that only the last one is recursive,
in the depth of the scripts.
-/

namespace Switchboard.Shell

/-- What runs a script in the thread that is at work. -/
abbrev Runner := Script → Run Unit

/-- Does something and says how it stopped. -/
def attempt (body : Run Unit) : Run (Except Stop Unit) :=
  tryCatch (do body; return .ok ()) fun stop => return .error stop

def resume : Except Stop Unit → Run Unit
  | .ok () => return ()
  | .error stop => throw stop

/-- Does something, and then something else in any case. -/
def finally_ (body after : Run Unit) : Run Unit := do
  let result ← attempt body
  after
  resume result

/-- Does something of which the status is looked at, or not looked at. -/
def withTested (tested : Bool) (body : Run Unit) : Run Unit := do
  let before := (← getThread).tested
  changeThread fun t => { t with tested }
  finally_ body (changeThread fun t => { t with tested := before })

/-- Leaves the shell after a failure at which nobody looks, if that is to be so. -/
def checkFailure : Run Unit := do
  let t ← getThread
  if t.status != 0 && t.hasOption 'e' && !t.tested then throw (.exit t.status)

/-! ### Texts -/

/-- Says why a text with the given last line is no script, and does not go on. -/
def syntaxError {α : Type} (lastLine : Nat) (trouble : Trouble) : Run α := do
  changeThread fun t => { t with line := lastLine - trouble.left }
  fail ("Syntax error: " ++ trouble.what).toList

/-- Runs the lines of a text, at most `n`; the answer is whether there was anything to run. -/
def runLines (run : Runner) (lastLine : Nat) : (n : Nat) → Chars → Run Bool
  | 0, _ => return false
  | n + 1, cs => do
    if cs.isEmpty then return false
    match readLine (← getThread).aliases true lastLine cs with
    | .error trouble => syntaxError lastLine trouble
    | .ok (script, rest) =>
      run script
      let more ← runLines run lastLine n rest
      return !script.isEmpty || more

/-- Runs a text as a script. -/
def runText (run : Runner) (text : Chars) : Run Unit := do
  let ran ← runLines run (1 + linesBehind text) (text.length + 1) text
  tellFallen
  if !ran then setStatus 0

/-- Runs the action of a trap. Nobody looks at its status. -/
def runAction (run : Runner) (action : Chars) : Run Unit := do
  let outside := (← getThread).outerStatus
  changeThread fun t => { t with outerStatus := outside.or (some t.status) }
  finally_ (withTested false (runText run action))
    (changeThread fun t => { t with outerStatus := outside })

/-- Runs the actions of the traps that have waited for a command to end. -/
def runWaiting (run : Runner) : Run Unit := do
  let t ← getThread
  if !t.waiting.isEmpty then
    changeThread fun t => { t with waiting := [] }
    t.waiting.forM fun action => do
      runAction run action
      setStatus t.status

/-! ### Ends -/

/-- How a thread has ended: its status, the instant of its end, if that has come, and the instant at
which it goes on. -/
structure ThreadEnd where
  status : Nat
  /-- The signals that have ended its processes. -/
  signals : List Nat := []
  finish : Option Nat
  wake : Option Nat

/-- Leaves a thread, with the trap that this sets off. -/
def exitWith (run : Runner) (code : Nat) : Run Unit := do
  match (← getThread).traps.lookup 0 with
  | some (.run action) =>
    changeThread fun t =>
      { t with traps := t.traps.filter (·.1 != 0), status := code, outerStatus := none }
    match ← attempt (runAction run action) with
    | .error (.exit other) => throw (.exit other)
    | .error (.failed other) => throw (.exit other)
    | .error .killed => throw .killed
    | .error (.fallen signal) => throw (.fallen signal)
    | .error (.suspended wake) => throw (.suspended wake)
    | _ => throw (.exit code)
  | _ => throw (.exit code)

/-- Runs a thread to its exit. -/
def toExit (run : Runner) (body : Run Unit) : Run Unit := do
  match ← attempt body with
  | .error (.exit code) => exitWith run code
  | .error (.failed code) => exitWith run code
  | .error (.return_ code) => exitWith run (code % 256)
  | .error .killed => throw .killed
  | .error (.fallen signal) => throw (.fallen signal)
  | .error (.suspended wake) => throw (.suspended wake)
  | _ => exitWith run ((← getThread).status % 256)

/-- A thread that another one starts: it gets no signals, and of the traps only those that ignore a
signal are left. -/
def Thread.child (t : Thread) : Thread :=
  { t with
    isMain := false
    parent := t.process
    traps := t.traps.filter fun (_, trap) => trap = .ignore
    outerStatus := none
    fallen := []
    waiting := [] }

/-- Numbers of processes that are no jobs begin here, so that they differ from those of jobs. -/
def firstProcess : Nat := mainNumber + 1000

/-- Runs a thread of its own to its end, from this instant on. The instant stays the same for the
thread that started it. -/
def asChild (run : Runner) (enter : Thread → Thread) (body : Run Unit) : Run ThreadEnd := do
  let before ← get
  let process := firstProcess + before.world.processes
  modify fun s =>
    { world := { s.world with
        processes := s.world.processes + 1
        alive := process :: s.world.alive }
      thread := enter { s.thread.child with process } }
  let result ← attempt (toExit run body)
  changeWorld fun w => { w with alive := w.alive.erase process }
  let after ← get
  modify fun s => { world := { s.world with clock := before.world.clock }, thread := before.thread }
  let reached := some after.world.clock
  match result with
  | .error (.suspended wake) => return { status := 0, finish := none, wake }
  | .error (.fallen signal) =>
    return { status := 128 + signal, signals := [signal], finish := reached, wake := none }
  | .error (.exit code) =>
    -- A process that has turned into its last command ends as that one has.
    let signals := after.thread.fallen.map Prod.fst
    return { status := code, signals, finish := reached, wake := none }
  | _ => return { status := after.thread.status, finish := reached, wake := none }

/-- Waits for a thread of its own to end. -/
def awaitEnd (child : ThreadEnd) : Run Unit := do
  let holds := (← getThread).holds (.output outputSink)
  let _ ← pause (.command holds) child.finish child.wake
  meetOwnSignals

/-- Waits for a thread of its own, the status of which is that of the command. Which signals have
ended it is said on the given descriptor: at once by the main thread, by others before their next
command, since their last one takes their place. -/
def awaitChild (errors : Option Channel) (child : ThreadEnd) : Run Unit := do
  awaitEnd child
  changeWorld (·.seeEnds)
  changeThread fun t => { t with fallen := t.fallen ++ child.signals.map (·, errors) }
  if (← getThread).isMain then tellFallen
  setStatus child.status

/-- Runs a command in a process of its own and waits for it. -/
def runApart (run : Runner) (errors : Option Channel) (body : Run Unit) : Run Unit := do
  changeWorld (·.clearPlace)
  awaitChild errors (← asChild run id body)

/-- Where a thread says what is wrong. -/
def errorChannel : Run (Option Channel) := do return (← getThread).channels.lookup 2

/-- What a script writes. -/
def capture (run : Runner) : Capture := fun script => do
  let sink ← newSink
  let enter (t : Thread) : Thread :=
    { t.setChannel 1 (.output sink) with tested := false }
  let child ← asChild run enter (run script)
  awaitEnd child
  tellSignals child.signals
  changeThread fun t => { t with captured := child.status }
  return (← takeCollected sink).flatMap Prod.snd

end Switchboard.Shell
