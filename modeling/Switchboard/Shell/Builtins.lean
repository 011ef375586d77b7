import Switchboard.Shell.Conditions
import Switchboard.Shell.LineReading
import Switchboard.Shell.Settings
import Switchboard.Shell.Signals

/-!
# Built-in commands

The commands that are part of the shell and need no other script to be run. Some of them are
special: when one of those fails, the shell does not go on.
-/

namespace Switchboard.Shell

/-- Writes a text; the status says whether that could be done. -/
def writeBuiltin (name text : Chars) : Run Unit := do
  if ← writeTo 1 text then setStatus 0
  else
    complain (name ++ ": I/O error".toList)
    setStatus 1

def printfBuiltin (arguments : List Chars) : Run Unit := do
  let (_, arguments) ← leadingOptions [] [] arguments
  match arguments with
  | [] => fail "usage: printf format [arg ...]".toList
  | format :: arguments =>
    let formatted := printfText format arguments
    formatted.faults.forM complain
    writeBuiltin "printf".toList formatted.text
    if formatted.status != 0 then setStatus formatted.status

def testBuiltin (arguments : List Chars) : Run Unit := do
  match evalTest (← surroundings) arguments with
  | .ok value => setStatus (if value then 0 else 1)
  | .error message => fail message

def bracketBuiltin (arguments : List Chars) : Run Unit :=
  if arguments.getLast? = some [']'] then testBuiltin arguments.dropLast
  else fail "missing ]".toList

/-! ### Directories -/

/-- A path without detours, from a directory, its links not followed. -/
def plainPath (here path : Chars) : Chars :=
  let whole := if path.head? = some '/' then path else here ++ '/' :: path
  let steps := (whole.splitOn '/').foldl (fun steps step =>
    if step.isEmpty || step = ['.'] then steps
    else if step = ['.', '.'] then steps.tail
    else step :: steps) []
  '/' :: List.intercalate ['/'] steps.reverse

def cdBuiltin (arguments : List Chars) : Run Unit := do
  let (given, arguments) ← leadingOptions ['L', 'P'] [] arguments
  let t ← getThread
  let isBack := arguments.head? = some ['-']
  let target :=
    if isBack then (t.valueOf? "OLDPWD".toList).getD []
    else match arguments with
      | [] => (t.valueOf? "HOME".toList).getD []
      | path :: _ => path
  let target := if target.isEmpty then ['.'] else target
  match ← find target with
  | (place, .directory) =>
    let isPlain := (given.getLast?.map Prod.fst) = some 'P'
    let path := if isPlain then place.toList else plainPath t.directory target
    let named (name : String) (value : Chars) (t : Thread) : Thread :=
      (t.setVariable name.toList value).export_ name.toList
    changeThread fun t =>
      { named "PWD" path (named "OLDPWD" t.directory t) with directory := path }
    if isBack then writeBuiltin "cd".toList (path ++ ['\n']) else setStatus 0
  | _ => fail ("can't cd to ".toList ++ target)

def pwdBuiltin (arguments : List Chars) : Run Unit := do
  let (given, _) ← leadingOptions ['L', 'P'] [] arguments
  let path ←
    if (given.getLast?.map Prod.fst) = some 'P' then do pure (← find ['.']).1.toList
    else do pure (← getThread).directory
  writeBuiltin "pwd".toList (path ++ ['\n'])

/-! ### Smaller ones -/

/-- What a mask leaves to one kind of user, in letters. -/
def permissionLetters (bits : Nat) : Chars :=
  (if bits / 4 % 2 = 0 then ['r'] else []) ++ (if bits / 2 % 2 = 0 then ['w'] else []) ++
    (if bits % 2 = 0 then ['x'] else [])

/-- The bits that some letters of a clause name, for the users that it names. -/
def clauseBits (users permissions modes : Nat) (letter : Char) : Nat :=
  let spread (bits : Nat) : Nat := users &&& (bits * 64 + bits * 8 + bits)
  permissions ||| match letter with
    | 'r' => spread 4
    | 'w' => spread 2
    | 'x' => spread 1
    | 'X' => if modes &&& 73 = 0 then 0 else spread 1
    | 'u' => spread (modes / 64 % 8)
    | 'g' => spread (modes / 8 % 8)
    | 'o' => spread (modes % 8)
    | _ => 0

/-- What a clause such as `u+rw` makes of modes: signs with letters after them, in at most `n`
steps.
-/
def applySigns (users : Nat) : (n modes : Nat) → Chars → Option Nat
  | 0, _, _ => none
  | n + 1, modes, cs =>
    match cs with
    | [] => some modes
    | sign :: rest =>
      let (letters, rest) := rest.span fun c => c ≠ '+' && c ≠ '-' && c ≠ '='
      if !letters.all ("rwxXstugo".toList.contains ·) then none
      else
        let bits := letters.foldl (fun bits l => clauseBits users bits modes l) 0
        let others := 511 - users
        if sign = '+' then applySigns users n (modes ||| bits) rest
        else if sign = '-' then applySigns users n (modes &&& (511 - bits)) rest
        else if sign = '=' then applySigns users n (modes &&& others ||| bits) rest
        else none

/-- What clauses make of modes. -/
def applyClauses : (modes : Nat) → List Chars → Option Nat
  | modes, [] => some modes
  | modes, clause :: rest => do
    let (names, signs) := clause.span fun c => c = 'u' || c = 'g' || c = 'o' || c = 'a'
    let usersOf (c : Char) : Nat := [('u', 448), ('g', 56), ('o', 7)].lookup c |>.getD 511
    let users := names.foldl (fun users c => users ||| usersOf c) 0
    if signs.isEmpty then none
    else applyClauses (← applySigns (if names.isEmpty then 511 else users) (signs.length + 1) modes
      signs) rest

def umaskBuiltin (arguments : List Chars) : Run Unit := do
  let (given, arguments) ← leadingOptions ['S'] [] arguments
  let mask := (← getThread).mask
  match arguments with
  | [] =>
    let shown := if given.isEmpty then
        let digits := Nat.toDigits 8 mask
        List.replicate (4 - digits.length) '0' ++ digits
      else
        "u=".toList ++ permissionLetters (mask / 64) ++ ",g=".toList ++
          permissionLetters (mask / 8) ++ ",o=".toList ++ permissionLetters mask
    writeBuiltin "umask".toList (shown ++ ['\n'])
  | text :: _ =>
    if text.all isOctal then
      changeThread fun t => { t with mask := baseValue 8 text % 512 }
      setStatus 0
    else if (text.head?.map Char.isDigit).getD false then fail ("Illegal number: ".toList ++ text)
    else
      match applyClauses (511 - mask % 512) (text.splitOn ',') with
      | some modes =>
        changeThread fun t => { t with mask := 511 - modes }
        setStatus 0
      | none => fail ("Illegal mode: ".toList ++ text)

/-- Shows the limits of what the shell may use: of most there is none. -/
def ulimitBuiltin (arguments : List Chars) : Run Unit := do
  let (given, values) ← leadingOptions "HSatfdscmlpnvwr".toList [] arguments
  let letter := ((given.map Prod.fst).filter fun c => c ≠ 'H' && c ≠ 'S').getLast?.getD 'f'
  match values with
  | [] =>
    let limit := match letter with
      | 's' => "8192"
      | 'n' => "1048576"
      | 'r' => "0"
      | 'p' => "8"
      | _ => "unlimited"
    writeBuiltin "ulimit".toList (limit.toList ++ ['\n'])
  | text :: _ =>
    if text = "unlimited".toList || text.all Char.isDigit then setStatus 0
    else fail "bad number".toList

/-- Leaves loops, or goes on with one, if the thread is in loops at all. -/
def loopBuiltin (stop : Nat → Stop) (arguments : List Chars) : Run Unit := do
  let n ← firstCount 1 arguments
  if n = 0 then fail "Illegal number: 0".toList
  let loops := (← getThread).loops
  if loops = 0 then setStatus 0 else throw (stop (min n loops))

def exitBuiltin (arguments : List Chars) : Run Unit := do
  let t ← getThread
  let code ← firstCount (t.outerStatus.getD t.status) arguments
  throw (.exit (code % 256))

def returnBuiltin (arguments : List Chars) : Run Unit := do
  throw (.return_ (← firstCount (← getThread).status arguments))

/-- The times that the shell and its programs have worked: none. -/
def timesBuiltin (_ : List Chars) : Run Unit :=
  let line := "0m0.000000s 0m0.000000s\n".toList
  writeBuiltin "times".toList (line ++ line)

/-- Looks programs up, so that they need not be looked for again. -/
def hashBuiltin (arguments : List Chars) : Run Unit := do
  let (_, names) ← leadingOptions ['r', 'v'] [] arguments
  setStatus 0
  names.forM fun name => do
    if !(← locateCommand name).isThere then
      complain (name ++ ": not found".toList)
      setStatus 1

def quiet (_ : List Chars) : Run Unit := setStatus 0

/-! ### Jobs -/

/-- What is said about how a job has ended. -/
def Job.ending (j : Job) : String :=
  match j.signals, j.status with
  | signal :: _, _ => (signalWords.lookup signal).getD ""
  | [], 0 => "Done"
  | [], n => "Done(" ++ toString n ++ ")"

/-- A job with its place in the list, which is marked if it is one of the last two. -/
def jobLine (j : Job) (place : Nat) (mark : Char) (hasEnded hasNumber : Bool) : Chars :=
  let state := if hasEnded then j.ending else "Running"
  let head := "[".toList ++ decimalChars place ++ "] ".toList ++ [mark, ' '] ++
    (if hasNumber then decimalChars j.number ++ [' '] else []) ++ state.toList
  head ++ List.replicate (max 1 (33 - head.length)) ' ' ++
    (List.replicate (j.members - 1) " | ".toList).flatten ++ ['\n']

/-- Tells what the jobs do, the last one first; that one has ended is told only once. -/
def jobsBuiltin (arguments : List Chars) : Run Unit := do
  let (given, names) ← leadingOptions ['l', 'p'] [] arguments
  let numbers ← names.mapM processNumber
  let w ← getWorld
  let hasEnded (j : Job) : Bool := (j.finish.map fun t => decide (t ≤ w.clock)).getD false
  let isChosen (j : Job) : Bool := names.isEmpty || numbers.contains j.number
  let jobs := w.untoldJobs
  -- What has been told counts no more for the marks of those behind it.
  let rank (i : Nat) : Nat := ((jobs.take i).filter fun j => !(hasEnded j && isChosen j)).length
  let chosen := jobs.zipIdx.filter fun (j, _) => isChosen j
  let shown := chosen.map fun (j, i) =>
    if given.any (·.1 = 'p') then decimalChars j.number ++ ['\n']
    else
      let mark := if rank i = 0 then '+' else if rank i = 1 then '-' else ' '
      jobLine j j.place mark (hasEnded j) (given.any (·.1 = 'l'))
  let told := (chosen.filter fun (j, _) => hasEnded j).map fun (j, _) => j.number
  changeWorld fun w =>
    { w with jobs := w.jobs.map fun j => { j with isTold := j.isTold || told.contains j.number } }
  writeBuiltin "jobs".toList shown.flatten

/-- Brings a job to the front, which needs a terminal. -/
def foregroundBuiltin (arguments : List Chars) : Run Unit := do
  match arguments with
  | [] => fail "No current job".toList
  | name :: _ => do
    let _ ← processNumber name
    fail ("job " ++ "not created under job control").toList

/-! ### Aliases -/

/-- An alias as it is listed. -/
def aliasLine (entry : Chars × Chars) : Chars :=
  entry.1 ++ '=' :: singleQuoted entry.2 ++ ['\n']

/-- Says that there is no alias with a name. -/
def noAlias (command : String) (name : Chars) : Run Unit := do
  let _ ← writeTo 2 (command.toList ++ ": ".toList ++ name ++ " not found\n".toList)
  setStatus 1

/-- Lets names stand for texts, or shows what they stand for. -/
def aliasBuiltin (arguments : List Chars) : Run Unit := do
  setStatus 0
  if arguments.isEmpty then
    let sorted := (← getThread).aliases.mergeSort fun a b => Thread.rowOf a.1 ≤ Thread.rowOf b.1
    writeBuiltin "alias".toList (sorted.flatMap aliasLine)
  arguments.forM fun argument => do
    let (name, value) := (argument.drop 1).span (· ≠ '=')
    let name := argument.take 1 ++ name
    match value, (← getThread).aliases.lookup name with
    | _ :: value, _ =>
      changeThread fun t => { t with aliases := Thread.withValue name value t.aliases }
    | [], some text =>
      let _ ← writeTo 1 (aliasLine (name, text))
    | [], none => noAlias "alias" name

def unaliasBuiltin (arguments : List Chars) : Run Unit := do
  let (given, names) ← leadingOptions ['a'] [] arguments
  setStatus 0
  if !given.isEmpty then changeThread fun t => { t with aliases := [] }
  names.forM fun name => do
    if ((← getThread).aliases.lookup name).isNone then noAlias "unalias" name
    else changeThread fun t => { t with aliases := t.aliases.filter (·.1 ≠ name) }

/-- The commands by name. -/
def builtins : List (String × (List Chars → Run Unit)) :=
  [(":", quiet), ("true", quiet), ("false", fun _ => setStatus 1),
   ("echo", fun a => writeBuiltin "echo".toList (echoText a)), ("printf", printfBuiltin),
   ("test", testBuiltin), ("[", bracketBuiltin), ("read", readBuiltin), ("cd", cdBuiltin),
   ("chdir", cdBuiltin), ("pwd", pwdBuiltin), ("trap", trapBuiltin), ("kill", killBuiltin),
   ("wait", waitBuiltin), ("exit", exitBuiltin), ("return", returnBuiltin),
   ("break", loopBuiltin .leave), ("continue", loopBuiltin .again), ("set", setBuiltin),
   ("shift", shiftBuiltin), ("export", exportBuiltin), ("readonly", readonlyBuiltin),
   ("local", localBuiltin), ("unset", unsetBuiltin), ("getopts", getoptsBuiltin),
   ("umask", umaskBuiltin), ("times", timesBuiltin), ("hash", hashBuiltin), ("jobs", jobsBuiltin),
   ("fg", foregroundBuiltin), ("bg", foregroundBuiltin), ("alias", aliasBuiltin),
   ("unalias", unaliasBuiltin), ("ulimit", ulimitBuiltin)]

end Switchboard.Shell
