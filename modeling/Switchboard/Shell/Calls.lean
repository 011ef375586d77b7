import Switchboard.Shell.Builtins
import Switchboard.Shell.Hosts

/-!
# Simple commands

The name of a command stands for a function, a command that is part of the shell, or a program. What
fails in a special command ends the shell; in others it is a status.
-/

namespace Switchboard.Shell

/-! ### Names -/

/-- What a command name stands for. -/
inductive Called where
  | special (run : List Chars → Run Unit)
  | function (body : Command)
  | builtin (run : List Chars → Run Unit)
  | program (run : List Chars → Run Unit)
  | shell (name : Chars)
  /-- A program that runs others. -/
  | host (work : Host)
  /-- Replaces the shell. -/
  | exec
  /-- Runs its arguments as a script. -/
  | eval
  /-- Runs the script in a file. -/
  | source
  /-- Says what its arguments stand for. -/
  | describe
  /-- Nothing has the name. -/
  | unknown
  /-- What has the name cannot be run. -/
  | refused

/-- The program that a name leads to. -/
def programCalled (name : Chars) : Run Called := do
  match ← locateCommand name with
  | .program found =>
    match programs.lookup found, hosts.lookup found with
    | some run, _ => return .program run
    | none, some host => return .host host
    | none, none => return .shell name
  | .directory => return .refused
  | .file => return .refused
  | .device => return .refused
  | _ => return .unknown

/-- What a name stands for, apart from functions if `plain` says so. -/
def called (plain : Bool) (name : Chars) : Run Called := do
  let t ← getThread
  let text := String.ofList name
  let function := if plain then none else t.functions.lookup name
  let isSpecial := specialNames.contains name
  if text = "exec" then return .exec
  else if text = "eval" then return .eval
  else if text = "." then return .source
  else match isSpecial, function, builtins.lookup text with
    | true, _, some run => return .special run
    | _, some body, _ => return .function body
    | _, none, some run => return .builtin run
    | _, none, none => if text = "type" then return .describe else programCalled name

def Called.isSpecial : Called → Bool
  | .special _ => true
  | .exec => true
  | .eval => true
  | .source => true
  | _ => false

/-- The path of the program that a name leads to. -/
def programPath (name : Chars) : Run Chars := do
  if name.contains '/' then return name
  let t ← getThread
  let w ← getWorld
  let isIn (d : String) : Bool :=
    match (Location.find w.tree (String.ofList t.directory) (d ++ "/" ++ String.ofList name)).2 with
    | .program _ => true
    | _ => false
  return ((t.searched.find? isIn).getD "").toList ++ '/' :: name

/-- Says what a name stands for: in words, or by a name or path; `false` says that it is nothing. -/
def describe (inWords : Bool) (name : Chars) : Run Bool := do
  let write (words : String) : Run Bool := do
    let text := if inWords then name ++ ' ' :: words.toList else name
    let _ ← writeTo 1 (text ++ ['\n'])
    return true
  let writePath : Run Bool := do
    let path ← programPath name
    let text := if inWords then name ++ " is ".toList ++ path else path
    let _ ← writeTo 1 (text ++ ['\n'])
    return true
  if reservedWords.contains name then write "is a shell keyword"
  else if let some text := (← getThread).aliases.lookup name then
    let shown := if inWords then name ++ " is an alias for ".toList ++ text
      else "alias ".toList ++ name ++ '=' :: singleQuoted text
    let _ ← writeTo 1 (shown ++ ['\n'])
    return true
  else if name = "command".toList then write "is a shell builtin"
  else match ← called false name with
    | .function _ => write "is a shell function"
    | .special _ => write "is a special shell builtin"
    | .builtin _ => write "is a shell builtin"
    | .exec => write "is a special shell builtin"
    | .eval => write "is a special shell builtin"
    | .source => write "is a special shell builtin"
    | .describe => write "is a shell builtin"
    | .program _ => writePath
    | .shell _ => writePath
    | .host _ => writePath
    | _ =>
      if inWords then
        let _ ← writeTo 1 (name ++ ": not found\n".toList)
      return false

/-! ### Calls -/

/-- Runs a program, which takes with it what it has read too much. -/
def runProgram (program : List Chars → Run Unit) (arguments : List Chars) : Run Unit :=
  finally_ (program arguments) (loseHeld 0)

/-- Does something in a part of the shell that has a name. -/
def named (name : Chars) (body : Run Unit) : Run Unit := do
  let before := (← getThread).command
  changeThread fun t => { t with command := some name }
  finally_ body (changeThread fun t => { t with command := before })

/-- Does something whose failure is a status. -/
def withStatus (body : Run Unit) : Run Unit := do
  match ← attempt body with
  | .error (.failed code) => setStatus code
  | result => resume result

/-- Runs the body of a function. -/
def callFunction (run : Runner) (body : Command) (arguments : List Chars) : Run Unit := do
  let outside ← getThread
  changeThread fun t =>
    { t with
      arguments
      locals := []
      keptOptions := none
      loops := 0
      calls := t.calls + 1
      optionPlace := (1, 0) }
  let result ← attempt (run [.mk [(.always, .mk false [body])] false])
  changeThread fun t =>
    { t.locals.foldl Thread.giveBack t with
      arguments := outside.arguments
      locals := outside.locals
      options := t.keptOptions.getD t.options
      keptOptions := outside.keptOptions
      loops := outside.loops
      calls := outside.calls
      optionPlace := outside.optionPlace }
  match result with
  | .error (.return_ code) => setStatus code
  | result => resume result

/-- Takes note of what a process lets go of when it turns into another program, of which it keeps
the signals that it ignores. -/
def letGo : Run Unit := do
  noteReleases
  changeThread fun t =>
    { t with traps := t.traps.filter fun (_, trap) => trap = .ignore, waiting := [] }

/-- Turns the process into another program, through at most `n` that run others. What is wrong with
a name is said by the one that is turned. -/
def turnInto (run : Runner) (tell : Chars → String → Run Unit) : (n : Nat) → List Chars → Run Unit
  | _, [] => return ()
  | 0, _ => return ()
  | n + 1, name :: arguments => do
    match ← programCalled name with
    | .program program =>
      letGo
      runProgram program arguments
      throw (.exit (← getThread).status)
    | .shell name =>
      letGo
      changeThread fun t => { t with number := t.process }
      toExit run (shellScript run name arguments)
    | .host host =>
      letGo
      host run (turnInto run · n) arguments
    | .refused =>
      tell name "Permission denied"
      throw (.exit 126)
    | _ =>
      tell name "No such file or directory"
      throw (.exit 127)

/-- How many programs that run others there are at most besides those that the words name. -/
def hostBound : Nat := 20

/-- Turns the process into another program, or notes what it has let go of for good. -/
def become (run : Runner) (words : List Chars) : Run Unit := do
  let tell (name : Chars) (reason : String) : Run Unit :=
    let isKnown := reason = "Permission denied"
    complain (name ++ (": " ++ if isKnown then reason else "not found").toList)
  if words.isEmpty then noteReleases
  else turnInto run tell (words.length + hostBound) words

/-- Runs the script in a file as a part of this one. -/
def source (run : Runner) : List Chars → Run Unit
  | [] => setStatus 0
  | path :: _ => do
    if path.contains '/' then
      match ← attempt (runFile run path) with
      | .error (.return_ code) => setStatus code
      | result => resume result
    else failAt path "not found"

/-- Runs what a name stands for. -/
def callTarget (run : Runner) (target : Called) (name : Chars) (arguments : List Chars) :
    Run Unit := do
  match target with
  | .special builtin => named name (builtin arguments)
  | .builtin builtin => withStatus (named name (builtin arguments))
  | .function body => callFunction run body arguments
  | .program program => do
    changeThread (·.inRows)
    let work := runProgram program arguments
    if (← getThread).isMain then runApart run (← errorChannel) work else work
  | .shell name => runShell run name arguments
  | .host _ => do
    changeThread (·.inRows)
    runApart run (← errorChannel) (become run (name :: arguments))
  | .exec => named name (become run arguments)
  | .eval => named name (runText run (List.intercalate [' '] arguments))
  | .source => named name (source run arguments)
  | .describe =>
    let found ← arguments.mapM (describe true)
    setStatus (if found.all id then 0 else 127)
  | .unknown =>
    complain (name ++ (if name.isEmpty then ": Permission denied" else ": not found").toList)
    setStatus 127
  | .refused =>
    complain (name ++ ": Permission denied".toList)
    setStatus 126

/-- A command with the words `command` in front of it taken away: what is asked about it, its words,
and whether there were any. -/
def withoutCommand : (n : Nat) → List Chars → Run (Option Char × List Chars × Bool)
  | 0, words => return (none, words, false)
  | n + 1, words => do
    match words with
    | name :: rest =>
      if name = "command".toList then
        let (given, rest) ← leadingOptions ['p', 'v', 'V'] [] rest
        match (given.filter (·.1 ≠ 'p')).getLast? with
        | some (letter, _) => return (some letter, rest, true)
        | none =>
          let (asked, rest, _) ← withoutCommand n rest
          return (asked, rest, true)
      else return (none, words, false)
    | [] => return (none, [], false)

/-! ### Assignments and traces -/

/-- Assigns the values of words to names, one after the other, each of which is done something else
with as well. The answer is what was assigned, as it is shown. -/
def assignAll (capture : Capture) (mark : Chars → Run Unit) : List (Chars × Word) →
    Run (List Chars)
  | [] => return []
  | (name, word) :: rest => do
    let value ← expandText capture word
    mark name
    assign name value
    return (name ++ '=' :: value) :: (← assignAll capture mark rest)

/-- Shows the words of a command on what was the descriptor for errors before, if that is wanted. -/
def trace (errors : Option Channel) (words : List Chars) : Run Unit := do
  let t ← getThread
  if t.hasOption 'x' then
    let saved := t.channels
    changeThread fun t => t.setChannel 2 (errors.getD .closed)
    let head := (t.valueOf? "PS4".toList).getD []
    let _ ← writeTo 2 (head ++ List.intercalate [' '] words ++ ['\n'])
    changeThread fun t => { t with channels := saved }

/-! ### Simple commands -/

/-- Says what the first of some names stands for. -/
def describeFirst (letter : Char) : List Chars → Run Unit
  | [] => setStatus 0
  | name :: _ => do
    let found ← describe (letter = 'V') name
    setStatus (if found then 0 else 127)

/-- Runs a command with what its name stands for. Its assignments hold as long as it runs; those of
a special one stay. -/
def runTarget (run : Runner) (assignments : List (Chars × Word)) (errors : Option Channel)
    (words : List Chars) (target : Called) (special : Bool) (name : Chars)
    (arguments : List Chars) : Run Unit := do
  let body : Run Unit := callTarget run target name arguments
  if special then
    let shown ← assignAll (capture run) (fun _ => return ()) assignments
    trace errors (shown ++ words)
    body
  else
    let outside ← getThread
    let kept := assignments.map fun a => outside.keep a.1
    let work : Run Unit := do
      let export_ (name : Chars) : Run Unit := changeThread (·.export_ name)
      let shown ← assignAll (capture run) export_ assignments
      trace errors (shown ++ words)
      if target.isSpecial then withStatus body else body
    finally_ work (changeThread fun t => kept.foldl Thread.giveBack t)

/-- Runs a command that has a name. -/
def runNamed (run : Runner) (assignments : List (Chars × Word)) (redirects : List Redirect)
    (errors : Option Channel) (words : List Chars) : Run Unit := do
  let before := (← getThread).command
  changeThread fun t => { t with command := words.head? }
  let found ← tryCatch (do return some (← withoutCommand words.length words)) fun
    | .failed code => do
      setStatus code
      return none
    | stop => throw stop
  changeThread fun t => { t with command := before }
  match found with
  | none => return ()
  | some (some letter, names, _) =>
    redirected (capture run) false redirects do
      trace errors words
      describeFirst letter names
  | some (none, [], _) => redirected (capture run) false redirects (setStatus 0)
  | some (none, name :: arguments, plain) => do
    let target ← called plain name
    let special := target.isSpecial && !plain
    let work : Run Unit := runTarget run assignments errors words target special name arguments
    match target with
    | .exec => do
      if ← redirectAll (capture run) redirects then work else throw (.failed 2)
    | _ => redirected (capture run) special redirects work

/-- Runs a command without a body of its own. Assignments alone change the shell's variables; their
status is that of the last script in them. -/
def runSimple (run : Runner) (assignments : List (Chars × Word)) (words : List Word)
    (redirects : List Redirect) : Run Unit := do
  tellFallen
  changeThread fun t => { t with captured := 0 }
  let errors ← errorChannel
  let fields ← expandWords (capture run) words
  match fields with
  | [] =>
    redirected (capture run) false redirects do
      let shown ← assignAll (capture run) (fun _ => return ()) assignments
      setStatus (← getThread).captured
      if !shown.isEmpty then trace errors shown
  | fields => runNamed run assignments redirects errors fields
  checkFailure

end Switchboard.Shell
