import Switchboard.Shell.Invocation
import Switchboard.Shell.Programs
import Switchboard.Shell.Records.Execution

/-!
# Programs that run others

Some programs change the surroundings of a command and turn into it; others run commands besides and
wait for them. What turns the process into a command is an argument of each of them.
-/

namespace Switchboard.Shell

/-- Turns the process into a command. What is wrong with its name is said by the one that launches
it. -/
abbrev Launch := (tell : Chars → String → Run Unit) → List Chars → Run Unit

/-- A program that runs commands. -/
abbrev Host := Runner → Launch → List Chars → Run Unit

/-- Says why a command could not be run, with its name between quotes. -/
def tellOf (program front : String) (name : Chars) (reason : String) : Run Unit :=
  writeError program (front.toList ++ betweenQuotes name ++ [':', ' '] ++ reason.toList)

/-- Ends a process with what it says about arguments that it cannot use. -/
def refuseHost (program : String) (status : Nat) (message : Chars) : Run Unit := do
  refuseUse program status message
  throw (.exit status)

/-! ### Surroundings -/

/-- The words of `env` that are no assignments, with the assignments done. -/
def withEnvironment : List Chars → Run (List Chars)
  | [] => return []
  | argument :: rest => do
    match argument.span (· ≠ '=') with
    | (name, '=' :: value) =>
      changeThread fun t => (t.setVariable name value).export_ name
      withEnvironment rest
    | _ => return argument :: rest

def environmentOptions : OptionTable where
  plain := ['i', '0']
  valued := ['u', 'C']
  long := [("ignore-environment", 'i'), ("unset", 'u'), ("chdir", 'C'), ("null", '0')]
  isLeading := true

/-- Runs a command in the environment that the arguments make, or shows the environment. -/
def envHost : Host := fun _ launch arguments => do
  match environmentOptions.read arguments with
  | .error fault => refuseHost "env" 125 fault.message
  | .ok options => do
    let (isBare, operands) := match options.operands with
      | ['-'] :: operands => (true, operands)
      | operands => (false, operands)
    if isBare || options.has 'i' then changeThread fun t => { t with vars := [], exported := [] }
    (options.values 'u').forM fun name => changeThread (·.clearVariable name)
    let command ← withEnvironment operands
    if let some path := options.value? 'C' then
      match ← find path with
      | (place, .directory) => changeThread fun t => { t with directory := place.toList }
      | _ => throw (.exit 125)
    if command.isEmpty then
      printenvProgram []
      throw (.exit 0)
    launch (fun name reason => do
      tellOf "env" "" name reason
      if name.any isSpace then
        writeError "env" "use -[v]S to pass options in shebang lines".toList) command

/-- Runs a command behind options that change nothing that can be seen. -/
def plainHost (name : String) (table : OptionTable) (failure : Nat) (alone : Run Unit) : Host :=
  fun _ launch arguments => do
    match table.read arguments with
    | .error fault => refuseHost name failure fault.message
    | .ok options =>
      if options.operands.isEmpty then
        alone
        throw (.exit (← getThread).status)
      let front := if name = "nice" then "" else "failed to run command "
      launch (tellOf name front) options.operands

/-- Runs a command that ignores hangups. -/
def nohupHost : Host := fun run launch arguments => do
  changeThread fun t => { t with traps := (1, .ignore) :: t.traps.filter (·.1 ≠ 1) }
  let table : OptionTable := { plain := [], valued := [], long := [], isLeading := true }
  plainHost "nohup" table 125 (refuseUse "nohup" 125 "missing operand".toList) run launch arguments

/-- The options of `nice`, of which the number may be one by itself. -/
def niceHost : Host := fun run launch arguments => do
  let arguments := match arguments with
    | ('-' :: rest) :: others =>
      if !rest.isEmpty && (rest.dropWhile (· = '-')).all Char.isDigit && rest ≠ ['-'] then others
      else arguments
    | arguments => arguments
  let table : OptionTable :=
    { plain := [], valued := ['n'], long := [("adjustment", 'n')], isLeading := true }
  plainHost "nice" table 125 (do
    writeOut ['0', '\n']
    setStatus 0) run launch arguments

def setsidHost : Host :=
  plainHost "setsid" { plain := ['c', 'f', 'w'], valued := [], long := [], isLeading := true } 1
    (refuseUse "setsid" 1 "no command specified".toList)

def stdbufHost : Host :=
  plainHost "stdbuf"
    { plain := [], valued := ['i', 'o', 'e']
      long := [("input", 'i'), ("output", 'o'), ("error", 'e')], isLeading := true } 125
    (refuseUse "stdbuf" 125 "missing operand".toList)

/-! ### Limits -/

def timeoutOptions : OptionTable where
  plain := ['f', 'p', 'v']
  valued := ['s', 'k']
  long := [("foreground", 'f'), ("preserve-status", 'p'), ("verbose", 'v'), ("signal", 's'),
    ("kill-after", 'k')]
  isLeading := true

/-- The end of a process that ends as another one has. -/
def endOf (child : ThreadEnd) : Stop :=
  match child.signals with
  | signal :: _ => .fallen signal
  | [] => .exit child.status

/-- Runs a command for a span of time at most. What it would have written later is not written. -/
def withinSpan (run : Runner) (launch : Run Unit) (span : Nat) (late : Stop) : Run Unit := do
  let before := (← getWorld).written.length
  let deadline := (← getWorld).clock + span
  let child ← asChild run id launch
  let holds := (← getThread).holds (.output outputSink)
  match child.finish with
  | some finish =>
    if finish ≤ deadline then
      let _ ← pause (.command holds) (some finish) child.wake
      throw (endOf child)
  | none =>
    if (← getWorld).horizon < deadline then
      let _ ← pause (.command holds) none (earlier child.wake (some deadline))
  let _ ← pause (.command holds) (some deadline) child.wake
  changeWorld fun w =>
    let new := w.written.length - before
    let kept := (w.written.take new).filter fun e => decide (e.instant ≤ deadline)
    { w with written := kept ++ w.written.drop new }
  throw late

def timeoutHost : Host := fun run launch arguments => do
  match timeoutOptions.read arguments with
  | .error fault => refuseHost "timeout" 125 fault.message
  | .ok ⟨given, span :: name :: words⟩ => do
    let command := launch (tellOf "timeout" "failed to run command ") (name :: words)
    let signal := (given.filter (·.1 = 's')).getLast?.bind fun s => signalNumber? s.2
    let late : Stop := if signal = some 9 then .fallen 9
      else .exit (if given.any (·.1 = 'p') then 128 + signal.getD 15 else 124)
    match spanNanos? span with
    | none => refuseHost "timeout" 125 ("invalid time interval ".toList ++ betweenQuotes span)
    | some 0 => command
    | some nanos => withinSpan run command nanos late
  | _ => do
    showHelp "timeout" 125
    throw (.exit 125)

/-! ### Arguments from the input -/

/-- The words of a text: quotes and backslashes take away the meaning of blanks. There is no result
if a quote is not closed. -/
def quotedWords : (n : Nat) → (word : Option Chars) → Chars → Option (List Chars)
  | 0, _, _ => none
  | n + 1, word, cs =>
    let finished := (word.map List.reverse).toList
    let add (text rest : Chars) := quotedWords n (some (text.reverse ++ word.getD [])) rest
    match cs with
    | [] => some finished
    | '\\' :: c :: rest => add [c] rest
    | c :: rest =>
      if c = ' ' || c = '\t' || c = '\n' then
        (quotedWords n none rest).map fun others => finished ++ others
      else if c = '\'' || c = '"' then
        match rest.span (· ≠ c) with
        | (text, _ :: rest) => if text.contains '\n' then none else add text rest
        | (_, []) => none
      else add [c] rest

/-- Lists of at most `most` members one after the other. -/
def groupsOf (most : Nat) : (n : Nat) → List Chars → List (List Chars)
  | 0, _ => []
  | n + 1, words =>
    if words.isEmpty then [] else words.take most :: groupsOf most n (words.drop most)

/-- A text with another one put in the place of a mark, in at most `n` steps. -/
def putInPlace (mark text : Chars) : (n : Nat) → Chars → Chars
  | 0, cs => cs
  | n + 1, cs =>
    match cs with
    | [] => []
    | c :: rest =>
      if mark.isPrefixOf cs && !mark.isEmpty then
        text ++ putInPlace mark text n (cs.drop mark.length)
      else c :: putInPlace mark text n rest

/-- Runs commands one after the other, until one of them says that this is enough. -/
def runCommandsOf (run : Runner) (launch : Launch) (shows : Bool) : List (List Chars) → Run Unit
  | [] => return ()
  | words :: rest => do
    if shows then
      let _ ← writeTo 2 (List.intercalate [' '] words ++ ['\n'])
    let tell (name : Chars) (reason : String) : Run Unit :=
      writeError "xargs" (name ++ ": ".toList ++ reason.toList)
    let child ← asChild run (·.setChannel 0 (.input emptyFlow)) (launch tell words)
    awaitEnd child
    if let signal :: _ := child.signals then
      writeError "xargs" (words.headD [] ++ ": terminated by signal ".toList ++ decimalChars signal)
      setStatus 125
    else if child.status = 255 then setStatus 124
    else if child.status = 126 || child.status = 127 then setStatus child.status
    else
      if child.status ≠ 0 then setStatus 123
      runCommandsOf run launch shows rest

def xargsOptions : OptionTable where
  plain := ['0', 'r', 't', 'x', 'p']
  valued := ['n', 'I', 'd', 'L', 'P', 's', 'E', 'a']
  long := [("null", '0'), ("no-run-if-empty", 'r'), ("max-args", 'n'), ("replace", 'I'),
    ("delimiter", 'd'), ("max-lines", 'L'), ("max-procs", 'P'), ("verbose", 't')]
  isLeading := true

/-- The words that the input holds. -/
def gatheredWords (o : Options) (text : Chars) : Option (List Chars) :=
  let separator := if o.has '0' then some '\x00'
    else (o.value? 'd').map fun d => match d with
      | '\\' :: rest => (readEscaped rest).1
      | d => d.headD '\n'
  match separator with
  | some c =>
    let parts := text.splitOn c
    some (if parts.getLast? = some [] then parts.dropLast else parts)
  | none =>
    if (o.value? 'I').isSome then
      some ((textLines text).map (·.dropWhile fun c => c = ' ' || c = '\t') |>.filter
        (!·.isEmpty))
    else quotedWords (text.length + 1) none text

/-- Runs a command with the words of the input as its arguments. -/
def xargsHost : Host := fun run launch arguments => do
  match xargsOptions.read arguments with
  | .error fault => refuseHost "xargs" 1 fault.message
  | .ok o => do
    let text ← readAllInput
    let command := if o.operands.isEmpty then ["echo".toList] else o.operands
    setStatus 0
    match gatheredWords o text with
    | none => throw (.exit 1)
    | some words => do
      let commands := match o.value? 'I', (o.value? 'n').map natAtFront, o.value? 'L' with
        | some mark, _, _ => words.map fun word =>
          command.map fun part => putInPlace mark word (part.length + 1) part
        | none, some most, _ => (groupsOf (max most 1) words.length words).map (command ++ ·)
        | none, none, some lines =>
          let rows := (textLines text).filterMap fun l => quotedWords (l.length + 1) none l
          let rows := rows.filter (!·.isEmpty)
          let most := max (natAtFront lines) 1
          (List.range ((rows.length + most - 1) / most)).map fun i =>
            command ++ ((rows.drop (i * most)).take most).flatten
        | none, none, none =>
          if words.isEmpty then if o.has 'r' then [] else [command] else [command ++ words]
      runCommandsOf run launch (o.has 't') commands
      throw (.exit (← getThread).status)

/-! ### Records -/

/-- How programs on records run commands. -/
def recordCommands (run : Runner) : Records.Commands where
  run := fun text input => do
    let channel ← input.mapM (textChannel false)
    let enter (t : Thread) : Thread :=
      let t := { t with number := t.process }
      match channel with
      | some c => t.setChannel 0 c
      | none => t
    let child ← asChild run enter (shellScript run "sh".toList ["-c".toList, text])
    awaitEnd child
    return match child.signals with
      | signal :: _ => 256 + signal
      | [] => child.status
  capture := fun text => do
    let sink ← newSink
    let enter (t : Thread) : Thread :=
      { t.setChannel 1 (.output sink) with number := t.process }
    let child ← asChild run enter
      (shellScript run "sh".toList ["-c".toList, text])
    awaitEnd child
    return ((← takeCollected sink).flatMap Prod.snd, child.status)

def awkHost : Host := fun run _ arguments => do
  Records.recordsProgram (recordCommands run) arguments
  throw (.exit (← getThread).status)

/-- The programs that run others, by name. -/
def hosts : List (String × Host) :=
  [("env", envHost), ("nohup", nohupHost), ("nice", niceHost), ("setsid", setsidHost),
   ("stdbuf", stdbufHost), ("timeout", timeoutHost), ("xargs", xargsHost), ("awk", awkHost),
   ("mawk", awkHost), ("nawk", awkHost)]

end Switchboard.Shell
