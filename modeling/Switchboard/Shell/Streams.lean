import Switchboard.Shell.Files
import Switchboard.Shell.Quoting

/-!
# What programs have in common

Options among arguments, files in the place of the input, and texts as lines.
-/

namespace Switchboard.Shell

/-! ### Options -/

/-- The options of a program. -/
structure OptionTable where
  plain : Chars
  /-- Those that a value follows. -/
  valued : Chars
  /-- Those that a value may follow in the same argument. -/
  attached : Chars := []
  /-- The letters that long options stand for. -/
  long : List (String × Char)
  /-- Whether no option follows an argument that is none. -/
  isLeading : Bool := false

/-- Options with their values, and the arguments that are none. -/
structure Options where
  given : List (Char × Chars)
  operands : List Chars

namespace Options

def has (o : Options) (letter : Char) : Bool := o.given.any (·.1 = letter)

/-- The last value of an option. -/
def value? (o : Options) (letter : Char) : Option Chars :=
  (o.given.filter (·.1 = letter)).getLast?.map Prod.snd

def values (o : Options) (letter : Char) : List Chars :=
  (o.given.filter (·.1 = letter)).map Prod.snd

def add (o : Options) (found : List (Char × Chars)) : Options :=
  { o with given := found ++ o.given }

end Options

/-- What is wrong with an option. -/
inductive OptionFault where
  | unknownLetter (letter : Char)
  /-- A long option, with the value given to it. -/
  | unknownName (text : Chars)
  | ambiguous (text : Chars) (names : List String)
  | missingValue (letter : Char)
  | missingNamedValue (name : String)
  | needlessValue (name : String)

namespace OptionFault

/-- What a program says about the fault. -/
def message : OptionFault → Chars
  | unknownLetter letter => "invalid option -- '".toList ++ [letter, '\'']
  | unknownName text => "unrecognized option '--".toList ++ text ++ ['\'']
  | ambiguous text names =>
    "option '--".toList ++ text ++ "' is ambiguous; possibilities:".toList ++
      names.flatMap fun name => " '--".toList ++ name.toList ++ ['\'']
  | missingValue letter => "option requires an argument -- '".toList ++ [letter, '\'']
  | missingNamedValue name => ("option '--" ++ name ++ "' requires an argument").toList
  | needlessValue name => ("option '--" ++ name ++ "' doesn't allow an argument").toList

end OptionFault

namespace OptionTable

/-- The options in one argument, and the one whose value is the next argument; or the letter that is
none. -/
def readLetters (t : OptionTable) : Chars → Except Char (List (Char × Chars) × Option Char)
  | [] => .ok ([], none)
  | c :: rest =>
    if t.valued.contains c then
      .ok (if rest.isEmpty then ([], some c) else ([(c, rest)], none))
    else if t.attached.contains c then .ok ([(c, rest)], none)
    else if t.plain.contains c then
      (t.readLetters rest).map fun (found, last) => ((c, []) :: found, last)
    else .error c

/-- The long options that a name may stand for: the one with this name, or those that begin with
it. -/
def candidates (t : OptionTable) (name : String) : List (String × Char) :=
  match t.long.filter fun (word, _) => word = name with
  | [] => t.long.filter fun (word, _) => name.isPrefixOf word
  | exact_ => exact_.take 1

/-- The option that a long one stands for. -/
def readLong (t : OptionTable) (text : Chars) :
    Except OptionFault (List (Char × Chars) × Option Char) :=
  let (name, value) := text.span (· ≠ '=')
  match t.candidates (String.ofList name) with
  | [] => .error (.unknownName text)
  | (word, letter) :: others =>
    if others.any fun (_, other) => other ≠ letter then
      .error (.ambiguous text (word :: others.map Prod.fst))
    else match value, t.valued.contains letter, t.attached.contains letter with
      | [], true, _ => .ok ([], some letter)
      | [], false, _ => .ok ([(letter, [])], none)
      | _ :: value, true, _ => .ok ([(letter, value)], none)
      | _ :: value, _, true => .ok ([(letter, value)], none)
      | _, _, _ => .error (.needlessValue word)

/-- The options among some arguments, or what is wrong with the first that is none. -/
def read (t : OptionTable) : List Chars → Except OptionFault Options
  | [] => .ok ⟨[], []⟩
  | argument :: rest =>
    let found := match argument with
      | '-' :: '-' :: c :: name => some (t.readLong (c :: name))
      | '-' :: c :: letters =>
        if c = '-' then none
        else some ((t.readLetters (c :: letters)).mapError OptionFault.unknownLetter)
      | _ => none
    match found with
    | none =>
      if argument = ['-', '-'] then .ok ⟨[], rest⟩
      else if t.isLeading then .ok ⟨[], argument :: rest⟩
      else (t.read rest).map fun o => { o with operands := argument :: o.operands }
    | some (.error fault) => .error fault
    | some (.ok (given, none)) => (t.read rest).map (·.add given)
    | some (.ok (given, some letter)) =>
      match rest with
      | value :: rest => (t.read rest).map (·.add (given ++ [(letter, value)]))
      | [] =>
        match argument with
        | '-' :: '-' :: name =>
          .error (.missingNamedValue
            (((t.candidates (String.ofList name)).head?.map Prod.fst).getD ""))
        | _ => .error (.missingValue letter)

end OptionTable

/-! ### Input and output -/

/-- A bound on the pieces and lines that are read. -/
def readBound : Nat := 1000000

def writeOut (text : Chars) : Run Unit := do
  let _ ← writeTo 1 text

/-- Writes through a channel. -/
def writeThrough (c : Channel) (text : Chars) : Run Unit := do
  let saved := (← getThread).channels
  changeThread (·.setChannel 1 c)
  writeOut text
  changeThread fun t => { t with channels := saved }

/-- What a program says about what went wrong. -/
def writeError (program : String) (message : Chars) : Run Unit := do
  let _ ← writeTo 2 (program.toList ++ [':', ' '] ++ message ++ ['\n'])

/-- Shows the way to the help of a program, which leaves the given status. -/
def showHelp (program : String) (status : Nat) : Run Unit := do
  let _ ← writeTo 2 ("Try '" ++ program ++ " --help' for more information.\n").toList
  setStatus status

/-- What a program says about arguments that it cannot use, when it leaves the given status. -/
def refuseUse (program : String) (status : Nat) (message : Chars) : Run Unit := do
  writeError program message
  showHelp program status

/-- Runs a program with the options among its arguments, or says why it cannot run and leaves the
given status. -/
def withOptions (program : String) (t : OptionTable) (status : Nat) (arguments : List Chars)
    (body : Options → Run Unit) : Run Unit :=
  match t.read arguments with
  | .ok options => body options
  | .error fault => refuseUse program status fault.message

/-- Everything that an input holds. -/
def readAllInput : Run Chars := do
  let rec go : Nat → List Chars → Run (List Chars)
    | 0, acc => return acc
    | n + 1, acc => do
      match ← nextPiece .program 0 with
      | (some text, _) => go n (text :: acc)
      | (none, _) => return acc
  return (← go readBound []).reverse.flatten

/-- What a program says about a file that it cannot read, but for the reason. -/
def refusal (program : String) (path : Chars) : Chars :=
  match program with
  | "sed" => "can't read ".toList ++ path
  | "sort" => "cannot read: ".toList ++ shellName path
  | "head" => "cannot open ".toList ++ quoted path ++ " for reading".toList
  | "tail" => "cannot open ".toList ++ quoted path ++ " for reading".toList
  | "tac" => "failed to open ".toList ++ quoted path ++ " for reading".toList
  | "rev" => "cannot open ".toList ++ path
  | "grep" => path
  | "cmp" => path
  | _ => shellName path

/-- Does something with a file in the place of the input, or says that there is none and leaves the
given status. -/
def fromFile {α : Type} (program : String) (status : Nat) (path : Chars) (body : Run α) :
    Run (Option α) := do
  if path = ['-'] then return some (← body)
  let reason ← match ← locate path with
    | .directory => pure (some "Is a directory")
    | .blocked => pure (some "Not a directory")
    | _ => pure none
  match reason, ← openReading path with
  | none, .ok channel =>
    let saved := (← getThread).channels
    changeThread (·.setChannel 0 channel)
    let result ← body
    changeThread fun t => { t with channels := saved }
    return some result
  | reason, _ =>
    let reason := reason.getD "No such file or directory"
    writeError program (refusal program path ++ [':', ' '] ++ reason.toList)
    setStatus status
    return none

/-- The files that are named, or the input if none are. -/
def inputsOf (paths : List Chars) : List Chars := if paths.isEmpty then [['-']] else paths

/-- The texts of some files one behind the other, or of the input. -/
def readFiles (program : String) (status : Nat) (paths : List Chars) : Run Chars := do
  let texts ← (inputsOf paths).mapM fun path => fromFile program status path readAllInput
  return (texts.filterMap id).flatten

/-! ### Lines -/

/-- The lines of a text, without their line breaks. -/
def textLines (text : Chars) : List Chars :=
  let pieces := text.splitOn '\n'
  match pieces.reverse with
  | [] :: rest => rest.reverse
  | _ => pieces

/-- The lines of a text, with their line breaks. -/
def wholeLines (text : Chars) : List Chars :=
  let pieces := text.splitOn '\n'
  pieces.dropLast.map (· ++ ['\n']) ++ (pieces.getLast?.toList.filter fun l => !l.isEmpty)

def joinLines (lines : List Chars) : Chars := (lines.map (· ++ ['\n'])).flatten

/-- A text at the right end of a width. -/
def alignRight (width : Nat) (text : Chars) : Chars :=
  List.replicate (width - text.length) ' ' ++ text

end Switchboard.Shell
