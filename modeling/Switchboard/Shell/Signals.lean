import Switchboard.Shell.Arguments

/-!
# Signals and jobs

The commands that say what signals do to a shell, that send them, and that wait for jobs.
-/

namespace Switchboard.Shell

/-! ### Traps -/

/-- The traps of a thread as commands that set them. -/
def Thread.trapListing (t : Thread) : Chars :=
  let sorted := t.traps.mergeSort fun a b => decide (a.1 ≤ b.1)
  (sorted.map fun (number, trap) =>
    let action := match trap with
      | .ignore => []
      | .run action => action
    "trap -- ".toList ++ singleQuoted action ++ [' '] ++ signalName number ++ ['\n']).flatten

/-- Sets or resets the traps of some signals. -/
def setTraps (change : Option Trap) : List Chars → Run Unit
  | [] => setStatus 0
  | name :: names => do
    match signalNumber? name with
    | some number =>
      changeThread fun t =>
        { t with traps := change.toList.map (number, ·) ++ t.traps.filter (·.1 != number) }
      setTraps change names
    | none =>
      let _ ← writeTo 2 ("trap: ".toList ++ name ++ ": bad trap\n".toList)
      setStatus 1

def trapBuiltin (arguments : List Chars) : Run Unit := do
  let (_, arguments) ← leadingOptions [] [] arguments
  match arguments with
  | [] =>
    let _ ← writeTo 1 (← getThread).trapListing
    setStatus 0
  | action :: names =>
    if names.isEmpty || (signalDigits? action).isSome then setTraps none (action :: names)
    else if action = ['-'] then setTraps none names
    else setTraps (some (if action.isEmpty then .ignore else .run action)) names

/-! ### Sending signals -/

/-- Meets the signals that the script has sent to its own process. -/
def meetOwnSignals : Run Unit := do
  let t ← getThread
  let w ← getWorld
  if t.isMain then
    changeWorld fun w => { w with ownSignals := [] }
    let _ ← meetSignals (.command false) none none (w.ownSignals.map fun s => (w.clock, s))
  else
    let sent := w.sentSignals.filter (·.1 = t.process)
    changeWorld fun w => { w with sentSignals := w.sentSignals.filter (·.1 ≠ t.process) }
    sent.forM fun (_, number) =>
      match t.trapOf ⟨number⟩ with
      | some .ignore => return ()
      | some (.run action) => changeThread fun t => { t with waiting := t.waiting ++ [action] }
      | none => throw (.fallen number)

/-- Ends a job by a signal: what it would have written later is not written. -/
def World.endJob (w : World) (number : Nat) (signal : Signal) : World :=
  { w with
    written := w.written.filter fun e => !(e.owner = number && w.clock < e.instant)
    jobs := w.jobs.map fun j =>
      if j.number = number && (j.finish.map fun t => decide (w.clock < t)).getD true then
        { j with
          finish := some w.clock
          status := 128 + signal.number
          signals := [signal.number]
          wake := none }
      else j }

/-- Sends a signal, 0 to none but to see whether that can be done; `false` says that it cannot. -/
def sendSignal (number pid : Nat) : Run Bool := do
  let t ← getThread
  let w ← getWorld
  let isJob := w.jobs.any fun j =>
    j.number = pid && (j.finish.map fun at_ => decide (w.clock < at_)).getD true
  let isAlive := w.alive.contains pid
  if number = 0 then return pid = mainNumber || pid = t.number || isJob || isAlive
  else if pid = mainNumber then
    changeWorld fun w => { w with ownSignals := w.ownSignals ++ [⟨number⟩] }
    meetOwnSignals
    return true
  else if pid = t.process || isAlive then
    changeWorld fun w => { w with sentSignals := w.sentSignals ++ [(pid, number)] }
    meetOwnSignals
    return true
  else
    if !harmlessSignals.contains number then changeWorld fun w => w.endJob pid ⟨number⟩
    return isJob

/-- The jobs whose end was not told, the last one first. -/
def World.untoldJobs (w : World) : List Job := (w.jobs.filter fun j => !j.isTold).reverse

/-- The first place in the list of jobs that is free. -/
def World.freePlace (w : World) : Nat :=
  let taken := w.untoldJobs.map Job.place
  ((List.range (taken.length + 1)).find? fun i => !taken.contains (i + 1)).getD taken.length + 1

/-- Takes note of the jobs that have ended by now. -/
def World.seeEnds (w : World) : World :=
  { w with jobs := w.jobs.map fun j =>
      { j with isSeen := j.isSeen || (j.finish.map fun t => decide (t ≤ w.clock)).getD false } }

/-- Takes note of the jobs that were waited for. -/
def World.noteAwaited (w : World) (numbers : List Nat) : World :=
  { w with jobs := w.jobs.map fun j =>
      { j with isAwaited := j.isAwaited || j.isSeen && numbers.contains j.number } }

/-- Makes the first place free of which the job was waited for. -/
def World.clearPlace (w : World) : World :=
  let places := (w.jobs.filter fun j => j.isAwaited && !j.isTold).map Job.place
  match places.min? with
  | none => w
  | some place =>
    { w with jobs := w.jobs.map fun j => { j with isTold := j.isTold || j.place = place } }

/-- The number of the process that an argument names. -/
def processNumber (text : Chars) : Run Nat := do
  match text with
  | '%' :: place =>
    let jobs := (← getWorld).untoldJobs
    let found :=
      if place = ['%'] || place = ['+'] || place.isEmpty then jobs.head?
      else if place = ['-'] then jobs[1]?
      else jobs.find? fun j => some j.place = count? place
    match found with
    | some job => return job.number
    | none => fail ("No such job: ".toList ++ text)
  | text => argumentCount text

def killUsage : String :=
  "Usage: kill [-s sigspec | -signum | -sigspec] [pid | job]... or\nkill -l [exitstatus]"

/-- Writes the names of the signals, or of the one that an exit status stands for. -/
def listSignals : List Chars → Run Unit
  | [] => do
    let names := (List.range 32).map fun n => if n = 0 then ['0'] else signalName n
    let _ ← writeTo 1 (joinLines names)
    setStatus 0
  | text :: _ => do
    let n ← argumentCount text
    let n := if 128 < n then n - 128 else n
    if 0 < n && n ≤ 64 then
      let _ ← writeTo 1 (signalName n ++ ['\n'])
      setStatus 0
    else fail ("invalid signal number or exit status: ".toList ++ text)

def killBuiltin (arguments : List Chars) : Run Unit := do
  let direct := match arguments with
    | ('-' :: name) :: targets => (signalNumber? name).map (·, targets)
    | _ => none
  let (lists, number, targets) ← match direct with
    | some (number, targets) => pure (false, number, targets)
    | none => do
      let (given, targets) ← leadingOptions ['l'] ['s'] arguments
      let number ← match given.lookup 's' with
        | none => pure Signal.terminate.number
        | some name =>
          match signalNumber? name with
          | some number => pure number
          | none => fail ("invalid signal number or name: ".toList ++ name)
      pure (given.any (·.1 = 'l'), number, targets)
  if lists then listSignals targets
  else if targets.isEmpty then fail killUsage.toList
  else
    let sent ← targets.mapM fun target => do
      let pid ← processNumber target
      -- Without control of jobs, a job is no group of processes that could get a signal.
      let isGroup := target.head? = some '%' && !(← getThread).options.contains 'm'
      let done ← if isGroup then pure false else sendSignal number pid
      if !done then complain "No such process\n".toList
      return done
    setStatus (if sent.all id then 0 else 1)

/-- What ends a process, in words. -/
def signalWords : List (Nat × String) :=
  [(1, "Hangup"), (2, "Interrupt"), (3, "Quit"), (4, "Illegal instruction"),
   (5, "Trace/breakpoint trap"), (6, "Aborted"), (7, "Bus error"), (8, "Floating point exception"),
   (9, "Killed"), (10, "User defined signal 1"), (11, "Segmentation fault"),
   (12, "User defined signal 2"), (13, "Broken pipe"), (14, "Alarm clock"), (15, "Terminated"),
   (16, "Stack fault"), (19, "Stopped (signal)"), (20, "Stopped"), (21, "Stopped (tty input)"),
   (22, "Stopped (tty output)"), (24, "CPU time limit exceeded"), (25, "File size limit exceeded"),
   (26, "Virtual timer expired"), (27, "Profiling timer expired"), (29, "I/O possible"),
   (30, "Power failure"), (31, "Bad system call")]

/-- Says which signals have ended processes, apart from the two that are usual. -/
def tellSignals (signals : List Nat) : Run Unit :=
  signals.forM fun n => do
    if n ≠ 2 && n ≠ 13 then
      let words := (signalWords.lookup n).getD ("Unknown signal " ++ toString n)
      let _ ← writeTo 2 (words.toList ++ ['\n'])

/-- Says what has not been said yet about the ends of processes. -/
def tellFallen : Run Unit := do
  let t ← getThread
  if !t.fallen.isEmpty then
    t.fallen.forM fun (signal, errors) => do
      changeThread fun t => t.setChannel 2 (errors.getD .closed)
      tellSignals [signal]
    changeThread fun t' => { t' with fallen := [], channels := t.channels }

/-! ### Jobs -/

/-- Waits for jobs. The status is that of the last one, if the jobs were named. -/
def waitBuiltin (arguments : List Chars) : Run Unit := do
  let (_, arguments) ← leadingOptions [] [] arguments
  let numbers ← arguments.mapM processNumber
  let jobs := (← getWorld).untoldJobs.reverse
  let awaited := if arguments.isEmpty then jobs else jobs.filter fun j => numbers.contains j.number
  let target := (awaited.mapM Job.finish).map fun ends => ends.foldl max 0
  let wake := awaited.foldl (fun w j => if j.finish.isNone then earlier w j.wake else w) none
  if awaited.isEmpty then setStatus (if arguments.isEmpty then 0 else 127)
  else if ← pause .shell target wake then setStatus (128 + Signal.terminate.number)
  else if arguments.isEmpty then setStatus 0
  else
    let last := awaited.find? fun j => some j.number = numbers.getLast?
    tellSignals ((awaited.filter fun j => !j.isSeen).flatMap Job.signals)
    setStatus ((last.map Job.status).getD 127)
  changeWorld fun w => w.seeEnds.noteAwaited (awaited.map Job.number)

end Switchboard.Shell
