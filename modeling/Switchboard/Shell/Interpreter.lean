import Switchboard.Shell.Calls

/-!
# Running scripts

Compound commands, pipelines and lists.
-/

namespace Switchboard.Shell

/-! ### Compound commands -/

/-- What tells one turn of a loop from the next. -/
structure Turn where
  clock : Nat
  written : Nat
  reads : Nat
  vars : List (Chars × Chars)
  arguments : Nat
  jobs : Nat
  deriving DecidableEq

def turn : Run Turn := do
  let w ← getWorld
  let t ← getThread
  return {
    clock := w.clock
    written := w.written.length
    reads := w.reads
    vars := t.vars
    arguments := t.arguments.length
    jobs := w.jobs.length }

/-- Whether a loop goes on after a turn of it. -/
def goesOn (body : Run Unit) : Run Bool := do
  changeThread fun t => { t with loops := t.loops + 1 }
  let result ← attempt body
  changeThread fun t => { t with loops := t.loops - 1 }
  match result with
  | .ok () => return true
  | .error (.again 0) => return true
  | .error (.again 1) => do
    setStatus 0
    return true
  | .error (.leave 0) => return false
  | .error (.leave 1) => do
    setStatus 0
    return false
  | .error (.again (n + 1)) => throw (.again n)
  | .error (.leave (n + 1)) => throw (.leave n)
  | .error stop => throw stop

/-- Repeats the body, at most `n` times. A loop in which nothing changes goes round until a signal
comes. -/
def repeatBody (run : Runner) (untilDone : Bool) (condition body : Script) :
    (n : Nat) → (before : Option Turn) → Run Unit
  | 0, _ => do
    let _ ← pause .shell none none
    runWaiting run
  | n + 1, before => do
    let now ← turn
    if before = some now then
      let _ ← pause .shell none none
      runWaiting run
    let status := (← getThread).status
    let once : Run Unit := do
      withTested true (run condition)
      if ((← getThread).status = 0) = untilDone then
        setStatus (if before.isSome then status else 0)
        throw (.leave 0)
      run body
    if ← goesOn once then repeatBody run untilDone condition body n (some now)
    else return ()

/-- A bound on the turns of a loop. -/
def turnBound : Nat := 50000

def runEach (run : Runner) (name : Chars) (body : Script) : List Chars → Run Unit
  | [] => return ()
  | value :: rest => do
    assign name value
    if ← goesOn (run body) then runEach run name body rest
    else return ()

/-- Runs a script that may be empty: then it succeeds. -/
def runBody (run : Runner) (body : Script) : Run Unit :=
  if body.isEmpty then setStatus 0 else run body

def runBranch (run : Runner) (otherwise : Script) : List (Script × Script) → Run Unit
  | [] => runBody run otherwise
  | (condition, body) :: rest => do
    withTested true (run condition)
    if (← getThread).status = 0 then run body else runBranch run otherwise rest

/-- Runs the body of the first case with a pattern that fits. -/
def runChoice (run : Runner) (text : Chars) : List (List Word × Script) → Run Unit
  | [] => setStatus 0
  | (patterns, body) :: rest => do
    let found ← patterns.anyM fun p => return fits (← expandPattern (capture run) p) text
    if found then runBody run body else runChoice run text rest

def runCommand (run : Runner) : Command → Run Unit
  | .located line command => do
    changeThread fun t => { t with line }
    runCommand run command
  | .simple assignments words redirects => runSimple run assignments words redirects
  | .subshell body redirects => do
    tellFallen
    let errors ← errorChannel
    redirected (capture run) false redirects (runApart run errors (run body))
    checkFailure
  | .group body redirects => redirected (capture run) false redirects (run body)
  | .loop untilDone condition body redirects =>
    redirected (capture run) false redirects
      (repeatBody run untilDone condition body turnBound none)
  | .branch cases otherwise redirects =>
    redirected (capture run) false redirects (runBranch run otherwise cases)
  | .each name items body redirects => redirected (capture run) false redirects do
    let values ← match items with
      | some words => expandWords (capture run) words
      | none => do pure (← getThread).arguments
    if values.isEmpty then setStatus 0 else runEach run name body values
  | .choose subject cases redirects => redirected (capture run) false redirects do
    runChoice run (← expandText (capture run) subject) cases
  | .define name body => do
    changeThread fun t =>
      { t with functions := (name, body) :: t.functions.filter (·.1 != name) }
    setStatus 0

/-! ### Pipelines and lists -/

/-- Starts commands side by side, each reading what the one before writes. -/
def runPipes (run : Runner) : List Command → (input : Option Channel) → Run (List ThreadEnd)
  | [], _ => return []
  | command :: rest, input => do
    let enter (t : Thread) : Thread := match input with
      | some c => t.setChannel 0 c
      | none => t
    if rest.isEmpty then return [← asChild run enter (runCommand run command)]
    else
      let sink ← newSink
      let child ← asChild run (fun t => (enter t).setChannel 1 (.output sink))
        (runCommand run command)
      let pieces ← takeCollected sink
      let flow ← newFlow { pieces, ended := child.finish, wake := child.wake }
      return child :: (← runPipes run rest (some (.input flow)))

/-- The end of a pipeline is that of the last of its commands to end; its status is that of its last
command. -/
def pipelineEnd (children : List ThreadEnd) : ThreadEnd :=
  { status := (children.getLast?.map ThreadEnd.status).getD 0
    signals := children.flatMap ThreadEnd.signals
    finish := (children.mapM ThreadEnd.finish).map fun ends => ends.foldl max 0
    wake := children.foldl (fun w c => earlier w c.wake) none }

def runCommands (run : Runner) : List Command → Run Unit
  | [command] => runCommand run command
  | commands => do
    tellFallen
    changeWorld (·.clearPlace)
    let errors ← errorChannel
    awaitChild errors (pipelineEnd (← runPipes run commands none))
    checkFailure

def runPipeline (run : Runner) : Pipeline → Run Unit
  | .mk negated commands => do
    if negated then
      withTested true (runCommands run commands)
      setStatus (if (← getThread).status = 0 then 1 else 0)
    else runCommands run commands
    runWaiting run

/-- Runs pipelines that hang on one another; the status of all but the last is looked at. -/
def runJoined (run : Runner) : List (Junction × Pipeline) → Run Unit
  | [] => return ()
  | (junction, pipeline) :: rest => do
    let t ← getThread
    let goes := match junction with
      | .always => true
      | .ifDone => t.status = 0
      | .ifFailed => t.status != 0
    if goes then
      withTested (t.tested || !rest.isEmpty) (runPipeline run pipeline)
    runJoined run rest

/-- Whether a command leads its output elsewhere. -/
def Command.leadsAway (c : Command) : Bool :=
  let leads (redirects : List Redirect) : Bool := redirects.any fun
    | .mk fd kind _ => fd = 1 && kind != .read && kind != .here
  match c with
  | .simple _ _ redirects => leads redirects
  | .subshell _ redirects => leads redirects
  | .group _ redirects => leads redirects
  | .loop _ _ _ redirects => leads redirects
  | .branch _ _ redirects => leads redirects
  | .each _ _ _ redirects => leads redirects
  | .choose _ _ redirects => leads redirects
  | .define .. => false
  | .located _ command => command.leadsAway

/-- Starts a job, which reads nothing and begins an instant after what the shell does next. -/
def runBackground (run : Runner) (pipelines : List (Junction × Pipeline)) : Run Unit := do
  tellFallen
  changeWorld (·.clearPlace)
  let w ← getWorld
  let number := mainNumber + 1 + w.jobs.length
  let holdsOutput := (← getThread).holds (.output outputSink) && !match pipelines with
    | [(_, .mk _ [command])] => command.leadsAway
    | _ => false
  let members := match pipelines with
    | [(_, .mk _ commands)] => commands.length
    | _ => 1
  changeWorld fun w =>
    { w with
      owner := number
      jobs := w.jobs ++ [{
        number, finish := none, status := 0, signals := [], wake := none, holdsOutput
        place := w.freePlace, members, isSeen := false, isAwaited := false, isTold := false }] }
  changeWorld fun w => { w with clock := w.clock + 1 }
  let enter (t : Thread) : Thread :=
    { t.setChannel 0 (.input emptyFlow) with tested := false, process := number }
  let child ← asChild run enter (run [.mk pipelines false])
  changeWorld fun w' =>
    { w' with
      clock := w.clock
      owner := w.owner
      jobs := w'.jobs.map fun j =>
        if j.number = number then
          { j with
            finish := child.finish
            status := child.status
            signals := child.signals
            wake := child.wake }
        else j }
  changeThread fun t => { t with lastJob := some number }
  setStatus 0

/-- Runs a statement, unless nothing is to be run any more. -/
def runStatement (run : Runner) : Statement → Run Unit
  | .mk pipelines background => do
    if (← getThread).hasOption 'n' then return ()
    if background then runBackground run pipelines else runJoined run pipelines

/-- Runs a script in which scripts nest up to a depth. -/
def runScript : (depth : Nat) → Runner
  | 0, _ => throw (.exit 2)
  | depth + 1, script => script.forM (runStatement (runScript depth))

/-- How deep scripts may nest. -/
def depthBound : Nat := 10000

end Switchboard.Shell
