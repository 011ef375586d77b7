import Switchboard.Shell.Moments
import Switchboard.Shell.Placing

/-!
# Facts

The programs that tell something: about the system and its user, about where programs are, about
numbers and about points in time. The user is the one who may do everything; the zone of time is the
one of Greenwich.
-/

namespace Switchboard.Shell

/-! ### System and user -/

/-- What the system calls itself. -/
def systemName : String := "Linux"

def machineName : String := "x86_64"

def userName : String := "root"

def unameProgram (arguments : List Chars) : Run Unit :=
  withOptions "uname" { plain := ['s', 'm', 'o', 'p', 'i'], valued := [], long :=
    [("kernel-name", 's'), ("machine", 'm'), ("operating-system", 'o')] } 1 arguments fun o => do
    let parts := (if o.has 's' || o.given.isEmpty then [systemName] else []) ++
      (if o.has 'm' then [machineName] else []) ++ (if o.has 'p' then ["unknown"] else []) ++
      (if o.has 'i' then ["unknown"] else []) ++ (if o.has 'o' then ["GNU/" ++ systemName] else [])
    if o.operands.isEmpty then
      writeOut ((" ".intercalate parts).toList ++ ['\n'])
      setStatus 0
    else setStatus 1

def idProgram (arguments : List Chars) : Run Unit :=
  withOptions "id" { plain := ['u', 'g', 'G', 'n', 'r'], valued := [], long :=
    [("user", 'u'), ("group", 'g'), ("groups", 'G'), ("name", 'n'), ("real", 'r')] } 1 arguments
    fun o => do
    if o.has 'u' || o.has 'g' || o.has 'G' then
      writeOut (if o.has 'n' then userName.toList ++ ['\n'] else ['0', '\n'])
      setStatus 0
    else if o.has 'n' then setStatus 1
    else
      writeOut "uid=0(root) gid=0(root) groups=0(root)\n".toList
      setStatus 0

/-- Writes a line that is always the same. -/
def lineProgram (status : Nat) (text : String) (_ : List Chars) : Run Unit := do
  writeOut (text.toList ++ ['\n'])
  setStatus status

/-- Shows where the programs are that are named. -/
def whichProgram (arguments : List Chars) : Run Unit := do
  let (showsAll, names) := match arguments with
    | ['-', 'a'] :: names => (true, names)
    | names => (false, names)
  let t ← getThread
  let isRunnable : Location → Bool
    | .program _ => true
    | _ => false
  let found ← names.mapM fun name => do
    if name.contains '/' then return if isRunnable (← locate name) then [name] else []
    let paths := t.searched.map fun d => (d ++ "/").toList ++ name
    let there ← paths.filterM fun path => do return isRunnable (← locate path)
    return if showsAll then there else there.take 1
  writeOut (joinLines found.flatten)
  setStatus (if found.all fun f => !f.isEmpty then 0 else 1)

/-! ### Numbers -/

/-- The prime factors of a number from a divisor on, in at most `n` steps. -/
def factorsFrom : (n : Nat) → (divisor : Nat) → Nat → List Nat
  | 0, _, value => [value]
  | n + 1, divisor, value =>
    if value < 2 then []
    else if value < divisor * divisor then [value]
    else if value % divisor = 0 then divisor :: factorsFrom n divisor (value / divisor)
    else factorsFrom n (if divisor = 2 then 3 else divisor + 2) value

/-- How many divisors are tried at most. -/
def divisorBound : Nat := 1000000

def factorProgram (arguments : List Chars) : Run Unit := do
  let words ←
    if arguments.isEmpty then do
      let text ← readAllInput
      pure ((text.splitBy fun a b => isSpace a == isSpace b).filter fun w => !isSpace (w.headD ' '))
    else pure arguments
  setStatus 0
  words.forM fun word => do
    match count? word with
    | some n =>
      let factors := (factorsFrom divisorBound 2 n).map fun f : Nat => ' ' :: decimalChars f
      writeOut (decimalChars n ++ ':' :: factors.flatten ++ ['\n'])
    | none => setStatus 1

/-! ### Points in time -/

/-- The second since 1970 in which scripts are taken to begin. -/
def firstSecond : Int := 1767225600

/-- The format that `-I` asks for. -/
def isoFormat : Chars → String
  | 'h' :: _ => "%Y-%m-%dT%H%:z"
  | 'm' :: _ => "%Y-%m-%dT%H:%M%:z"
  | 's' :: _ => "%Y-%m-%dT%H:%M:%S%:z"
  | 'n' :: _ => "%Y-%m-%dT%H:%M:%S,%N%:z"
  | _ => "%Y-%m-%d"

def dateProgram (arguments : List Chars) : Run Unit :=
  withOptions "date" { plain := ['u', 'R'], valued := ['d'], attached := ['I'], long :=
    [("utc", 'u'), ("universal", 'u'), ("date", 'd'), ("iso-8601", 'I'), ("rfc-email", 'R')] } 1
    arguments fun o => do
    let clock := (← getWorld).clock
    let now : Int := firstSecond + (clock / 1000000000 : Nat)
    let moment := match o.value? 'd' with
      | some text => (momentOf? text).map fun seconds => (seconds, 0)
      | none => some (now, clock % 1000000000)
    let format : Option Chars := match o.operands, o.value? 'I' with
      | [], some which => some (isoFormat which).toList
      | [], none => some (if o.has 'R' then "%a, %d %b %Y %H:%M:%S %z".toList
          else "%a %b %e %H:%M:%S %Z %Y".toList)
      | ['+' :: format], _ => some format
      | _, _ => none
    match moment, format with
    | some (seconds, nanos), some format => do
      let shown := (Moment.ofSeconds seconds).format nanos (2 * format.length + 40) format
      writeOut (shown ++ ['\n'])
      setStatus 0
    | none, some _ => do
      writeError "date" ("invalid date '".toList ++ (o.value? 'd').getD [] ++ ['\''])
      setStatus 1
    | _, none => setStatus 1

/-- The programs that tell facts, by name. -/
def factPrograms : List (String × (List Chars → Run Unit)) :=
  [("uname", unameProgram), ("id", idProgram), ("whoami", lineProgram 0 userName),
   ("groups", lineProgram 0 userName), ("arch", lineProgram 0 machineName),
   ("tty", lineProgram 1 "not a tty"), ("which", whichProgram), ("factor", factorProgram),
   ("date", dateProgram), ("sync", fun _ => setStatus 0)]

end Switchboard.Shell
