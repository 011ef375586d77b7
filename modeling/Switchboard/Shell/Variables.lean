import Switchboard.Shell.Format
import Switchboard.Shell.Parser
import Switchboard.Shell.World

/-!
# Variables and parameters

A thread has variables, some of which programs get and some of which do not change any more. The
parameters are the variables, the arguments and what the shell knows about itself.
-/

namespace Switchboard.Shell

namespace Thread

def valueOf? (t : Thread) (name : Chars) : Option Chars := t.vars.lookup name

/-- The letters of all options, in the order in which they are shown. -/
def optionOrder : List Char :=
  ['u', 'b', 'a', 'C', 'E', 'V', 'v', 'x', 's', 'n', 'm', 'i', 'I', 'f', 'e']

def hasOption (t : Thread) (letter : Char) : Bool := t.options.contains letter

/-- Some variables with a value for a name; a new one comes last. -/
def withValue (name value : Chars) : List (Chars × Chars) → List (Chars × Chars)
  | [] => [(name, value)]
  | (other, v) :: rest =>
    if other = name then (name, value) :: rest else (other, v) :: withValue name value rest

def setVariable (t : Thread) (name value : Chars) : Thread :=
  { t with
    vars := withValue name value t.vars
    exported := if t.hasOption 'a' then t.exported.insert name else t.exported
    optionPlace := if name = "OPTIND".toList then (max 1 (natAtFront value), 0) else t.optionPlace }

def clearVariable (t : Thread) (name : Chars) : Thread :=
  { t with
    vars := t.vars.filter (·.1 != name)
    exported := t.exported.erase name }

def export_ (t : Thread) (name : Chars) : Thread := { t with exported := t.exported.insert name }

/-- The variables as they were with other values for some names. -/
def keep (t : Thread) (name : Chars) : Kept :=
  { name, value := t.valueOf? name, isExported := t.exported.contains name
    isFixed := t.fixed.contains name }

/-- Gives a variable back what was kept of it. -/
def giveBack (t : Thread) (k : Kept) : Thread :=
  { t with
    vars := match k.value with
      | some value => withValue k.name value t.vars
      | none => t.vars.filter (·.1 != k.name)
    exported := if k.isExported then t.exported.insert k.name else t.exported.erase k.name
    fixed := if k.isFixed then t.fixed.insert k.name else t.fixed.erase k.name }

/-- The row in which the shell keeps a variable; programs get the variables row by row. -/
def rowOf (name : Chars) : Nat :=
  ((name.headD '\x00').toNat * 16 + (name.map Char.toNat).foldl (· + ·) 0) % 39

/-- The variables in the order in which programs get them. -/
def inRows (t : Thread) : Thread :=
  { t with vars := t.vars.mergeSort fun a b => rowOf a.1 ≤ rowOf b.1 }

/-- What stands between arguments that are joined. -/
def joint (t : Thread) : Chars :=
  match t.valueOf? "IFS".toList with
  | some separators => separators.take 1
  | none => [' ']

/-- The value of a parameter, if it has one. -/
def parameter? (t : Thread) (name : Chars) : Option Chars :=
  match name with
  | ['?'] => some (decimalChars t.status)
  | ['#'] => some (decimalChars t.arguments.length)
  | ['$'] => some (decimalChars t.number)
  | ['!'] => t.lastJob.map fun n => decimalChars n
  | ['-'] => some (optionOrder.filter t.hasOption)
  | ['@'] => some (List.intercalate t.joint t.arguments)
  | ['*'] => some (List.intercalate t.joint t.arguments)
  | name =>
    if name.all Char.isDigit then
      match baseValue 10 name with
      | 0 => some t.zero
      | n + 1 => t.arguments[n]?
    else t.valueOf? name

end Thread

/-- Assigns a value to a variable that may change. -/
def assign (name value : Chars) : Run Unit := do
  if !isName name then failAt name "bad variable name"
  else if (← getThread).fixed.contains name then failAt name "is read only"
  else changeThread (·.setVariable name value)

/-- A text in quotes, so that it is read as it stands. -/
def singleQuoted (text : Chars) : Chars :=
  let mark := '\''
  let rec go : (n : Nat) → Chars → Chars
    | 0, _ => []
    | n + 1, cs =>
      let (plain, rest) := cs.span (· ≠ mark)
      let (marks, rest) := rest.span (· = mark)
      mark :: plain ++ [mark] ++
        if marks.isEmpty then []
        else '"' :: marks ++ ['"'] ++ if rest.isEmpty then [] else go n rest
  go (text.length + 1) text

/-- The variables with some names as commands that assign them, sorted by their names. -/
def Thread.listing (t : Thread) (command : Chars) (names : List Chars) : Chars :=
  let sorted := (names.map String.ofList).mergeSort fun a b => !decide (b < a)
  let head := if command.isEmpty then [] else command ++ [' ']
  (sorted.map fun name =>
    let value := match t.valueOf? name.toList with
      | some value => '=' :: singleQuoted value
      | none => []
    head ++ name.toList ++ value ++ ['\n']).flatten

end Switchboard.Shell
