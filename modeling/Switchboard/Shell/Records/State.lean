import Switchboard.Shell.Regex
import Switchboard.Shell.Streams
import Switchboard.Shell.Records.Table

/-!
# The state of a program on records

Variables, arrays, and the record at hand with its fields, which are kept in step: a new record is
cut into fields, and a new field makes a new record.
-/

namespace Switchboard.Shell.Records

/-- What a name inside of a function stands for. -/
inductive Slot where
  | value (v : Value)
  | array (number : Nat)

/-- Something that records are read from: what was read of it, and where more comes from. -/
structure Feed where
  buffer : Chars
  source : Option Channel
  /-- The status of the command that has given all of it. -/
  status : Option Nat

/-- Something that output is led to: a file, or a command with its input so far, the last first. -/
inductive Drain where
  | file (channel : Channel)
  | command (texts : List Chars)

structure Machine where
  globals : Std.HashMap String Value
  arrays : Std.HashMap Nat Table
  arrayNumbers : Std.HashMap String Nat
  /-- How many arrays were made. -/
  arraysMade : Nat
  locals : List (Chars × Slot)
  /-- How many functions run inside of each other. -/
  depth : Nat
  record : Value
  fields : Array Value
  /-- The argument that is the next to be read. -/
  operand : Nat
  /-- Whether some argument was read. -/
  hasRead : Bool
  main : Option Feed
  feeds : List (Chars × Feed)
  /-- The last one used comes first. -/
  drains : List (Chars × Drain)
  /-- What was written but is not out yet, the last first. -/
  held : List Chars
  /-- Whether nothing is held back. -/
  interactive : Bool
  /-- The rules whose range of records has begun. -/
  active : List Nat
  seed : Nat
  status : Nat

/-- Why the statements do not go on. -/
inductive Leave where
  | next
  | nextFile
  | exit
  | break_
  | continue_
  | return_ (v : Value)
  /-- Something is wrong. -/
  | fault

abbrev Eval := ExceptT Leave (StateT Machine Run)

/-- Something that is done outside. -/
def outside {α : Type} (work : Run α) : Eval α := ExceptT.lift (StateT.lift work)

def fault {α : Type} : Eval α := throw .fault

/-! ### Variables -/

def globalOf (name : String) : Eval Value := do
  return ((← get).globals[name]?).getD .empty

def setGlobal (name : String) (v : Value) : Eval Unit :=
  modify fun m => { m with globals := m.globals.insert name v }

/-- The format of numbers in texts. -/
def numberFormat : Eval Chars := do return (← globalOf "CONVFMT").toText []

def textOf (v : Value) : Eval Chars := do
  match v with
  | .number x =>
    match wholeChars? x with
    | some digits => return digits
    | none => return v.toText (← numberFormat)
  | v => return v.toText []

def globalText (name : String) : Eval Chars := do textOf (← globalOf name)

/-- Makes an empty array. -/
def newArray : Eval Nat := do
  let m ← get
  let number := m.arraysMade
  set { m with arrays := m.arrays.insert number .empty, arraysMade := number + 1 }
  return number

/-- The array that a name stands for. -/
def arrayOf (name : Chars) : Eval Nat := do
  let m ← get
  match m.locals.lookup name with
  | some (.array number) => return number
  | some (.value _) => do
    let number ← newArray
    modify fun m =>
      { m with locals := m.locals.map fun l => if l.1 = name then (name, .array number) else l }
    return number
  | none =>
    match m.arrayNumbers[String.ofList name]? with
    | some number => return number
    | none => do
      let number ← newArray
      modify fun m => { m with arrayNumbers := m.arrayNumbers.insert (String.ofList name) number }
      return number

/-- Does something with an array. -/
def withTable {α : Type} (number : Nat) (f : Table → α × Table) : Eval α := do
  let m ← get
  let t := (m.arrays[number]?).getD .empty
  let (a, t) := f t
  modify fun m => { m with arrays := m.arrays.insert number t }
  return a

def setTable (number : Nat) (t : Table) : Eval Unit :=
  modify fun m => { m with arrays := m.arrays.insert number t }

/-- The key that subscripts make. -/
def keyOf : List Value → Eval Key
  | [.number x] =>
    match wholeChars? x with
    | some _ => return .whole (wholePart x)
    | none => return .text ((Value.number x).toText (← numberFormat))
  | values => do
    let texts ← values.mapM textOf
    return .text (List.intercalate (← globalText "SUBSEP") texts)

/-! ### Regular expressions -/

/-- The character of an escape in a regular expression. -/
def recordEscape : Chars → Option (Char × Chars)
  | [] => none
  | c :: rest =>
    if isOctal c then
      let digits := ((c :: rest).take 3).takeWhile isOctal
      some (byteChar (baseValue 8 digits), (c :: rest).drop digits.length)
    else some ((escapeLetter? c).getD c, rest)

def recordDialect : Dialect where
  isExtended := true
  isStrict := false
  allowsEmptyRanges := true
  allowsBareClasses := true
  items := fun _ => none
  escape := recordEscape
  quotesInSets := true

def searchOf (text : Chars) : Eval Search :=
  match recordDialect.parse false text with
  | .ok search => return search
  | .error _ => fault

/-! ### Fields -/

/-- The parts of a text between what fits a search, which is never empty. -/
def splitBySearch (search : Search) (text : Array Char) : (n place : Nat) → List Chars
  | 0, _ => []
  | n + 1, place =>
    match search.findWhere? (fun a b => decide (a < b)) text place with
    | some fit => textBetween text place fit.first :: splitBySearch search text n fit.last
    | none => [textBetween text place text.size]

/-- The parts of a text: between blanks, at a character, at what fits a regular expression, or all
of its characters. -/
def splitText (separator text : Chars) : Eval (List Chars) := do
  let isBlank (c : Char) := c = ' ' || c = '\t' || c = '\n'
  match separator with
  | [' '] => return (text.splitBy fun a b => isBlank a == isBlank b).filter fun part =>
      !isBlank (part.headD ' ')
  | [] => return text.map fun c => [c]
  | [c] =>
    if text.isEmpty then return [] else return text.splitOn c
  | separator =>
    if text.isEmpty then return []
    else
      let search ← searchOf separator
      return splitBySearch search text.toArray (text.length + 1) 0

/-- The parts of a record. -/
def splitRecord (text : Chars) : Eval (List Chars) := do splitText (← globalText "FS") text

def setCount (n : Nat) : Eval Unit := setGlobal "NF" (.number (Float.ofNat n))

/-- Takes a text as the record. -/
def setRecord (text : Chars) : Eval Unit := do
  let parts ← splitRecord text
  modify fun m =>
    { m with record := .input text, fields := (parts.map Value.input).toArray }
  setCount parts.length

/-- Makes the record anew from its fields. -/
def rebuildRecord : Eval Unit := do
  let joint ← globalText "OFS"
  let texts ← (← get).fields.toList.mapM textOf
  modify fun m => { m with record := .input (List.intercalate joint texts) }

def fieldAt (i : Nat) : Eval Value := do
  let m ← get
  if i = 0 then return m.record else return (m.fields[i - 1]?).getD (.text [])

/-- As many fields as a number says, of which new ones are empty. -/
def resizeFields (n : Nat) : Eval Unit :=
  modify fun m =>
    { m with
      fields := m.fields.take n ++ Array.replicate (n - m.fields.size) (.text []) }

/-- No record has more fields. -/
def fieldBound : Nat := 100000

def setField (i : Nat) (v : Value) : Eval Unit := do
  if i = 0 then setRecord (← textOf v)
  else if fieldBound < i then fault
  else
    if (← get).fields.size < i then
      resizeFields i
      setCount i
    modify fun m => { m with fields := m.fields.setIfInBounds (i - 1) v }
    rebuildRecord

def variableAt (name : Chars) : Eval Value := do
  let m ← get
  match m.locals.lookup name with
  | some (.value v) => return v
  | some (.array _) => fault
  | none => return (m.globals[String.ofList name]?).getD .empty

def setVariable (name : Chars) (v : Value) : Eval Unit := do
  let m ← get
  match m.locals.lookup name with
  | some (.value _) =>
    modify fun m =>
      { m with locals := m.locals.map fun l => if l.1 = name then (name, .value v) else l }
  | some (.array _) => fault
  | none => do
    modify fun m => { m with globals := m.globals.insert (String.ofList name) v }
    if name = ['N', 'F'] then
      let n := wholePart v.toNumber
      if n < 0 || fieldBound < n then fault
      resizeFields n.toNat
      rebuildRecord

/-! ### Output -/

/-- Lets out what is held back. -/
def flushOut : Eval Unit := do
  let m ← get
  if !m.held.isEmpty then
    set { m with held := [] }
    outside (writeOut m.held.reverse.flatten)

def writeHeld (text : Chars) : Eval Unit := do
  modify fun m => { m with held := text :: m.held }
  if (← get).interactive then flushOut

end Switchboard.Shell.Records
