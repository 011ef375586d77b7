import Switchboard.Shell.Redirection
import Switchboard.Shell.Settings

/-!
# Shells

A shell runs the script in its arguments, the script in a file, or its input line by line.
-/

namespace Switchboard.Shell

/-- The variables that a shell begins with, besides those that it is given. -/
def startVariables : List (Chars × Chars) :=
  [("IFS", " \t\n"), ("OPTIND", "1"), ("PS1", "# "), ("PS2", "> "), ("PS4", "+ ")].map
    fun (name, value) => (name.toList, value.toList)

/-- A thread as a shell finds it when it begins. -/
def Thread.fresh (t : Thread) (zero : Chars) : Thread :=
  let given := t.vars.filter fun v =>
    t.exported.contains v.1 && !("PPID".toList :: startVariables.map Prod.fst).contains v.1
  let names := given.map Prod.fst
  let path := "PATH".toList
  let searched := (":".intercalate Layout.searched).toList
  let standard := startVariables ++ ("PPID".toList, decimalChars t.parent) ::
    if names.contains path then [] else [(path, searched)]
  { t with
    vars := standard ++ given
    exported := t.exported.filter names.contains
    fixed := []
    zero
    arguments := []
    options := []
    tested := false
    waiting := []
    status := 0
    functions := []
    aliases := []
    fallen := []
    loops := 0
    calls := 0
    locals := []
    keptOptions := none
    line := 0
    command := none
    optionPlace := (1, 0)
    outerStatus := none
    lastJob := none }

/-- Reads a line of the script that is the input. Shells that read in blocks keep what follows it,
which is `buffer` before and the last part of the answer afterwards. -/
def readScriptLine (inBlocks : Bool) : (n : Nat) → (buffer : Chars) →
    Run (Chars × LineEnd × Chars)
  | 0, buffer => return (buffer, .atEnd, [])
  | n + 1, buffer => do
    if !inBlocks then
      let (line, ending) ← readInputLine .shell false 0 readBound []
      return (line, ending, [])
    match buffer.span (· ≠ '\n') with
    | (line, _ :: rest) => return (line, .complete, rest)
    | (line, []) =>
      match ← nextBlock .shell 0 with
      | (_, true) => return ([], .interrupted, line)
      | (none, false) => return (line, .atEnd, [])
      | (some text, false) => readScriptLine inBlocks n (line ++ text)

/-- Runs the lines of the input, each with those after it that it needs, at most `n` lines. `number`
of them were read before, and of what follows them `buffer`. -/
def runInput (run : Runner) (inBlocks : Bool) : (n number : Nat) → (pending buffer : Chars) →
    Run Unit
  | 0, _, _, _ => return ()
  | n + 1, number, pending, buffer => do
    let (line, ending, buffer) ← readScriptLine inBlocks readBound buffer
    let text := pending ++ line
    let number := number + 1
    changeThread fun t => { t with line := number }
    match ending with
    | .interrupted =>
      runWaiting run
      runInput run inBlocks n (number - 1) text buffer
    | .atEnd =>
      let _ ← runLines run number (text.length + 1) text
    | .complete =>
      match readLine (← getThread).aliases false (number + 1) (text ++ ['\n']) with
      | .ok (script, _) =>
        run script
        runInput run inBlocks n number [] buffer
      | .error trouble =>
        if trouble.isEnd then runInput run inBlocks n number (text ++ ['\n']) buffer
        else syntaxError (number + 1) trouble

/-- Runs the script in a file. -/
def runFile (run : Runner) (path : Chars) : Run Unit := do
  let (place, location) ← find path
  if !location.isThere then
    fail ("cannot open ".toList ++ path ++ ": No such file".toList)
  else
    let w ← getWorld
    match (w.madeAt? place).bind Made.sink with
    | some sink => runText run (w.fileText sink)
    | none => setStatus 0

/-- Gives the directory of a shell a name: the one that the shell was given, if it leads there, or
else its path without links. -/
def nameDirectory : Run Unit := do
  let name := "PWD".toList
  let (place, _) ← find ['.']
  let given := ((← getThread).valueOf? name).getD []
  let leadsThere := given.head? = some '/' && (← find given).1 = place
  let directory := if leadsThere then given else place.toList
  changeThread fun t => { (t.setVariable name directory).export_ name with directory }

/-- A shell by its name and arguments. -/
def shellScript (run : Runner) (name : Chars) (arguments : List Chars) : Run Unit := do
  changeThread fun t => t.fresh name
  nameDirectory
  let found ← setOptions true arguments
  let begin_ (zero : Chars) (arguments : List Chars) : Run Unit :=
    changeThread fun t => { t with zero, arguments, line := 1 }
  let readsInput : Run Unit := do
    changeThread fun t => { t with options := t.options.insert 's' }
    let inBlocks := (parentOf name).2 ≠ "bash".toList
    runInput run inBlocks readBound 0 [] []
  let isInput := (← getThread).hasOption 's'
  match found.isCommand, found.rest with
  | true, [] => fail "-c requires an argument".toList
  | true, text :: rest => do
    if isInput then begin_ name rest else begin_ (rest.headD name) rest.tail
    runText run text
    if isInput then readsInput
  | false, rest =>
    match isInput, rest with
    | false, path :: rest => do
      if (← locate path).isThere then begin_ path rest
      runFile run path
    | _, rest => do
      begin_ name rest
      readsInput

/-- Runs a shell in a process of its own. -/
def runShell (run : Runner) (name : Chars) (arguments : List Chars) : Run Unit := do
  let enter (t : Thread) : Thread := { t with number := t.process }
  let errors ← errorChannel
  awaitChild errors (← asChild run enter (shellScript run name arguments))

end Switchboard.Shell
