import Switchboard.Shell.Interpreter

/-!
# The system of shells and programs

Spawning a process finds the program that the configuration names and runs it in a world in which
there is what the processes before it have left, and nothing has happened yet: what is done to the
process is the input and the signals of this world, and what can be seen of it is read off the world
once its threads wait for something that has not happened.
-/

namespace Switchboard.Shell

def charsOfText (text : String) : Chars := charsOfBytes text.toUTF8.data.toList

/-- What is at a path where a process has left something. -/
def locationOf : Remnant → Location
  | .nothing => .missing
  | .directory => .directory
  | .file _ => .file

/-- Where paths lead after processes have left something behind. -/
def treeOf (remnants : Remnants) : Tree := remnants.map fun (path, r) => (path, locationOf r)

/-- The sinks for the files among what processes have left behind start here. -/
def firstFileSink : Nat := 3

/-- What is made in a world at its beginning. -/
def madeOf (remnants : Remnants) : List Made :=
  remnants.zipIdx.map fun ((path, r), i) =>
    { path, since := 0
      sink := if r matches .file _ then some (firstFileSink + i) else none
      isGone := r matches .nothing }

/-- What is written in files at the beginning of a world. -/
def writtenOf (remnants : Remnants) : List Written :=
  remnants.zipIdx.filterMap fun ((_, r), i) =>
    match r with
    | .file text =>
      some { sink := firstFileSink + i, instant := 0, owner := 0, text := charsOfBytes text }
    | _ => none

/-- A world in which nothing has happened. The end of the input comes an instant after it was
closed, behind a signal that was sent with it. -/
def World.initial (remnants : Remnants) (isDrained : Bool) (start : Nat) (stimuli : Stimuli)
    (horizon : Nat) : World where
  clock := start
  horizon := horizon
  flows :=
    [{ pieces := stimuli.input.map fun (t, bytes) => (t, charsOfBytes bytes)
       ended := stimuli.inputEnd.map (· + 1)
       wake := none },
     { pieces := [], ended := some 0, wake := none }]
  reads := 0
  written := writtenOf remnants
  errorReader := if isDrained then some .start else none
  sinks := firstFileSink + remnants.length
  made := madeOf remnants
  signals := stimuli.signals
  ownSignals := []
  alive := []
  sentSignals := []
  exit := none
  jobs := []
  processes := 0
  owner := 0
  outputRelease := none
  inputRelease := none
  orphan := none
  orphanWake := none

/-- The variables that a process is given. -/
def givenVariables (directory : Chars) : List (Chars × Chars) :=
  [("HOME".toList, "/root".toList),
   ("PATH".toList, (":".intercalate Layout.searched).toList), ("PWD".toList, directory)]

/-- The main thread of a program in a directory. -/
def Thread.initial (directory : Chars) : Thread where
  vars := givenVariables directory
  exported := (givenVariables directory).map Prod.fst
  fixed := []
  zero := []
  arguments := []
  options := []
  tested := false
  channels := [(0, .input 0), (1, .output outputSink), (2, .output errorSink)]
  traps := []
  waiting := []
  status := 0
  captured := 0
  functions := []
  aliases := []
  directory := directory
  mask := 18
  number := mainNumber
  process := mainNumber
  parent := mainNumber - 1
  fallen := []
  loops := 0
  calls := 0
  locals := []
  keptOptions := none
  line := 0
  command := none
  optionPlace := (1, 0)
  outerStatus := none
  isMain := true
  lastJob := none

/-- What a program does from its first instruction on. -/
def programBody (name : String) (command : Chars) (arguments : List Chars) : Run Unit := do
  let run := runScript depthBound
  match programs.lookup name with
  | some program => do
    program arguments
    throw (.exit (← getThread).status)
  | none => toExit run (become run (command :: arguments))

/-- The latest of some instants, if all of them are known. -/
def latest (instants : List (Option Nat)) : Option Nat :=
  instants.foldl (fun a b => do some (max (← a) (← b))) (some 0)

/-- What a world leaves behind. -/
def World.remnants (w : World) : Remnants :=
  let lasting (t : Nat) : Bool := t ≤ w.horizon
  (w.made.filter fun m => lasting m.since).map fun m =>
    let text (sink : Nat) : Chars :=
      ((w.collected sink).filter fun e => lasting e.1).flatMap Prod.snd
    (m.path, if m.isGone then .nothing
      else (m.sink.map fun sink => .file (bytesOfChars (text sink))).getD .directory)

/-- What can be seen of a world, given how its main thread has stopped. -/
def World.observation (w : World) (stop : Except Stop Unit) : Observation :=
  let seen (t : Option Nat) := t.filter (· ≤ w.horizon)
  let (exit, wake) : Option (Nat × ExitStatus) × Option Nat :=
    match stop with
    | .ok () => (some (w.clock, .code 0), none)
    | .error (.exit code) => (some (w.clock, .code code), none)
    | .error .killed => (w.exit, none)
    | .error (.fallen signal) => (some (w.clock, .signal ⟨signal⟩), none)
    | .error (.suspended wake) => (none, wake)
    | .error _ => (some (w.clock, .code 0), none)
  let ended := exit.map Prod.fst
  let left : List (Option Nat) := w.orphan.toList
  let holders := w.jobs.filter Job.holdsOutput
  let outputEnd := latest ((w.outputRelease.or ended) :: left ++ holders.map Job.finish)
  let inputEnd := latest ((w.inputRelease.or ended) :: left)
  let output := w.collected outputSink
  let later := output.map Prod.fst ++ ended.toList ++ outputEnd.toList
  let wakes := [wake, w.orphanWake] ++ w.jobs.map Job.wake ++ later.map some
  { output := (output.filter fun (t, _) => t ≤ w.horizon).map fun (t, cs) => (t, bytesOfChars cs)
    outputEnd := seen outputEnd
    inputEnd := seen inputEnd
    exit := exit.filter fun (t, _) => t ≤ w.horizon
    wake := (wakes.map fun t => t.filter (w.horizon < ·)).foldl earlier none
    remnants := w.remnants }

/-- How a program behaves that is run in a directory by a command; `isDrained` says that its error
output is read. -/
def behaviour (name : String) (remnants : Remnants) (isDrained : Bool)
    (directory command : Chars) (arguments : List Chars) : Behaviour :=
  fun start stimuli horizon =>
    let state : State :=
      { world := .initial remnants isDrained start stimuli horizon, thread := .initial directory }
    let (stop, after) := (programBody name command arguments).run.run state
    after.world.observation stop

def notDirectory : SystemError := .system 20 "NotADirectory" "Not a directory"

def nameTooLong : SystemError := .system 36 "InvalidFilename" "File name too long"

/-- Why a place that is no program cannot be run. -/
def placeError : Location → SystemError
  | .missing => .notFound
  | .blocked => notDirectory
  | .overlong => nameTooLong
  | _ => .permissionDenied

/-- The directory from which processes are spawned. Nothing is in it. -/
def home : String := "/srv"

/-- A text with a character for each of its bytes. -/
def byteText (text : String) : String := String.ofList (charsOfText text)

/-- The directory in which a process runs. -/
def directoryOf (tree : Tree) (config : ProcessConfig) : Except SystemError String :=
  match config.workingDir with
  | none => .ok home
  | some path =>
    match Location.find tree home (byteText path) with
    | (place, .directory) => .ok place
    | (_, .missing) => .error .notFound
    | (_, .overlong) => .error nameTooLong
    | _ => .error notDirectory

/-- A system that has shells and the programs that scripts use, and no others. -/
def system : System := fun _ remnants config => do
  let texts := config.executable :: config.args ++ config.workingDir.toList
  if texts.any fun text => text.contains '\x00' then throw .nulByte
  let tree := treeOf remnants
  let directory ← directoryOf tree config
  match Location.ofCommand tree Layout.searched directory (byteText config.executable) with
  | .program name =>
    return behaviour name remnants (config.stderr = .log) directory.toList
      (charsOfText config.executable) (config.args.map charsOfText)
  | place => throw (placeError place)

end Switchboard.Shell
