import Switchboard.Shell.Moments
import Switchboard.Shell.Records.Input

/-!
# Evaluation

Expressions and statements are evaluated along their syntax; only calls of functions go anywhere
else, so that what calls them is the first argument of each function here.
-/

namespace Switchboard.Shell.Records

/-- What runs commands: with an input, for a status, or for all that they write. -/
structure Commands where
  run : (text : Chars) → (input : Option Chars) → Run Nat
  capture : (text : Chars) → Run (Chars × Nat)

/-- What is the same during the whole run of a program. -/
structure Setting where
  functions : List Function
  /-- Which parameters of the functions are arrays. -/
  arrayParameters : List (Chars × List Bool)
  commands : Commands
  call : (function : Chars) → List Slot → Eval Value

/-! ### Output -/

/-- Puts something used at the front of a list by name. -/
def putFirst {α : Type} (name : Chars) (a : α) (all : List (Chars × α)) : List (Chars × α) :=
  (name, a) :: all.filter (·.1 ≠ name)

/-- What output is led to by a name. -/
def drainOf (kind : OutputKind) (name : Chars) : Eval Drain := do
  match (← get).drains.lookup name with
  | some drain => return drain
  | none =>
    match kind with
    | .command => do
      flushOut
      return .command []
    | kind =>
      let mode : WriteMode := if kind = .append then .append else .replace true
      match ← outside (openWriting mode name) with
      | .ok channel => return .file channel
      | .error _ => fault

/-- Writes a text to where it is led. -/
def writeLed (kind : OutputKind) (name text : Chars) : Eval Unit := do
  if kind != .command && (name = ['-'] || name = "/dev/stdout".toList) then writeHeld text
  else
    let drain ← match ← drainOf kind name with
      | .file channel => do
        outside (writeThrough channel text)
        pure (Drain.file channel)
      | .command texts => pure (Drain.command (text :: texts))
    modify fun m => { m with drains := putFirst name drain m.drains }

/-- Ends a drain; a command runs now. -/
def endDrain (x : Setting) (name : Chars) : Drain → Eval Nat
  | .file _ => return 0
  | .command texts => outside (x.commands.run name (some texts.reverse.flatten))

/-- Ends what is open under a name. -/
def closeName (x : Setting) (name : Chars) : Eval Value := do
  let m ← get
  let drain := m.drains.lookup name
  let feed := m.feeds.lookup name
  modify fun m =>
    { m with
      drains := m.drains.filter (·.1 ≠ name)
      feeds := m.feeds.filter (·.1 ≠ name) }
  match drain, feed with
  | some drain, _ => do
    flushOut
    return .number (Float.ofNat (← endDrain x name drain))
  | none, some feed => return .number (Float.ofNat (feed.status.getD 0))
  | none, none => return .number (-1)

/-- Ends all that is open. -/
def closeAll (x : Setting) : Eval Unit := do
  let m ← get
  modify fun m => { m with drains := [] }
  m.drains.forM fun (name, drain) => do
    let _ ← endDrain x name drain

/-! ### Numbers -/

/-- The rest of a division toward zero. -/
def floatRemainder (a b : Float) : Float :=
  match doubleOf a, doubleOf b with
  | .finite s m e, .finite _ n f =>
    if n = 0 then 0.0 / 0.0
    else
      let least := min e f
      let x := m * Nat.pow 2 (e - least).toNat
      let y := n * Nat.pow 2 (f - least).toNat
      let (num, den) := Switchboard.Number.Binary64.scaleRatio (x % y) 1 (-least)
      floatOf (.ofRatio s num den)
  | .finite .., .infinite _ => a
  | _, _ => 0.0 / 0.0

def operate (operation : Operation) (a b : Float) : Float :=
  match operation with
  | .add => a + b
  | .subtract => a - b
  | .multiply => a * b
  | .divide => a / b
  | .remainder => floatRemainder a b
  | .power => Float.pow a b

def truth (b : Bool) : Value := .number (if b then 1 else 0)

/-! ### Texts -/

/-- The text of what fits put into a replacement. -/
def fillMatch (whole : Chars) : Chars → Chars
  | [] => []
  | '\\' :: '\\' :: rest => '\\' :: fillMatch whole rest
  | '\\' :: '&' :: rest => '&' :: fillMatch whole rest
  | '&' :: rest => whole ++ fillMatch whole rest
  | c :: rest => c :: fillMatch whole rest

/-- Replaces what fits from a place on, once or everywhere, in at most `n` steps. Nothing that is
empty fits right behind another fit, which ended at `last`. The answer says how often. -/
def replaceFits (search : Search) (replacement : Chars) (all : Bool) (text : Array Char) :
    (n : Nat) → (last : Option Nat) → (place : Nat) → Nat × Chars
  | 0, _, _ => (0, [])
  | n + 1, last, place =>
    match search.find? text place with
    | none => (0, textBetween text place text.size)
    | some fit =>
      let before := textBetween text place fit.first
      let isEmpty := fit.last = fit.first
      let isSkipped := isEmpty && last = some fit.first
      let filled := if isSkipped then []
        else fillMatch (textBetween text fit.first fit.last) replacement
      let kept := if isEmpty then textBetween text fit.first (fit.first + 1) else []
      let next := fit.last + kept.length
      let (count, rest) :=
        if (!all && !isSkipped) || (isEmpty && text.size ≤ fit.first) then
          (0, textBetween text next text.size)
        else replaceFits search replacement all text n (some fit.last) next
      ((if isSkipped then count else count + 1), before ++ filled ++ kept ++ rest)

/-- The place of a text in another one, counted from 1, or 0. -/
def indexOf (text part : Chars) : (n place : Nat) → Nat
  | 0, _ => 0
  | n + 1, place =>
    if part.isPrefixOf text then place
    else match text with
      | [] => 0
      | _ :: rest => indexOf rest part n (place + 1)

/-- A part of a text, from a place counted from 1. A place before the text makes the part longer. -/
def partOf (text : Chars) (start : Float) (length : Option Float) : Chars :=
  let first := wholePart start
  let behind := text.drop (max first 1 - 1).toNat
  match length with
  | none => behind
  | some length =>
    let count := wholePart length
    behind.take (if first < 1 then count - first else count).toNat

/-- A place whose value has been found: which element or field it is. -/
inductive Spot where
  | variable (name : Chars)
  | field (i : Nat)
  | element (array : Nat) (key : Key)

def Spot.get : Spot → Eval Value
  | .variable name => variableAt name
  | .field i => fieldAt i
  | .element array key => withTable array (·.get key)

def Spot.set (v : Value) : Spot → Eval Unit
  | .variable name => setVariable name v
  | .field i => setField i v
  | .element array key => withTable array fun t => ((), t.set key v)

/-- The number of a field. -/
def fieldNumber (v : Value) : Eval Nat := do
  let i := wholePart v.toNumber
  if i < 0 then fault else return i.toNat

/-! ### Reading -/

/-- Takes a record that was read to where it belongs; those of the main input are counted. The
answer is 1, or 0 at the end. -/
def takeRecord (isMain : Bool) (target : Option Spot) : Option Chars → Eval Value
  | none => return .number 0
  | some text => do
    match target with
    | some spot => spot.set (.input text)
    | none => setRecord text
    if isMain then countRecord
    return .number 1

/-- The feed under a name, which is opened if it is not open. -/
def feedOf (x : Setting) (isCommand : Bool) (name : Chars) : Eval (Option Feed) := do
  match (← get).feeds.lookup name with
  | some feed => return some feed
  | none =>
    if isCommand then do
      flushOut
      let (text, status) ← outside (x.commands.capture name)
      return some { buffer := text, source := none, status := some status }
    else openFeed name

/-- Reads a record from a file or a command. -/
def readNamed (x : Setting) (isCommand : Bool) (name : Chars) (target : Option Spot) :
    Eval Value := do
  match ← feedOf x isCommand name with
  | none => return .number (-1)
  | some feed =>
    let (text, feed) ← recordOf feed
    modify fun m => { m with feeds := putFirst name feed m.feeds }
    takeRecord false target text

/-! ### Expressions -/

/-- Looks for a search in a text, and notes where it fits. -/
def matchIn (text : Chars) (search : Search) : Eval Value := do
  let (start, length) : Nat × Float := match search.find? text.toArray 0 with
    | some fit => (fit.first + 1, Float.ofNat (fit.last - fit.first))
    | none => (0, -1)
  setGlobal "RSTART" (.number (Float.ofNat start))
  setGlobal "RLENGTH" (.number length)
  return .number (Float.ofNat start)

/-- The next number of a sequence that has no order to be seen, from 0 up to 1. -/
def nextRandom : Eval Value := do
  let seed := ((← get).seed * 1103515245 + 12345) % 2147483648
  modify fun m => { m with seed }
  return .number (Float.ofNat seed / 2147483648.0)

/-- Runs a command, with what was written before let out first. -/
def runSystem (x : Setting) (text : Chars) : Eval Value := do
  flushOut
  return .number (Float.ofNat (← outside (x.commands.run text none)))

/-- What an expression means: a value, a regular expression, or a place that has a value. -/
inductive Meaning where
  | value (v : Value)
  | pattern (text : Chars)
  | spot (s : Spot)

/-- The number of the array that a name stands for already, if it is one. -/
def knownArray? (name : Chars) : Eval (Option Nat) := do
  let m ← get
  match m.locals.lookup name with
  | some (.array number) => return some number
  | some (.value _) => return none
  | none => return m.arrayNumbers[String.ofList name]?

namespace Meaning

/-- The value; a regular expression by itself is looked for in the record. -/
def get : Meaning → Eval Value
  | .value v => return v
  | .pattern text => do
    return truth ((← searchOf text).isIn (← textOf (← MonadState.get).record))
  | .spot s => s.get

/-- What is searched for. -/
def search : Meaning → Eval Search
  | .pattern text => searchOf text
  | m => do searchOf (← textOf (← m.get))

/-- The name, if it is only a name. -/
def name? : Meaning → Option Chars
  | .spot (.variable name) => some name
  | _ => none

/-- The same with its value as it is now. Arrays have no value. -/
def settled (m : Meaning) : Eval (Meaning × Value) := do
  match m with
  | .pattern _ => return (m, .empty)
  | .spot (.variable name) =>
    if (← knownArray? name).isSome then return (m, .empty) else return (m, ← m.get)
  | m => return (m, ← m.get)

end Meaning

/-- What a function does that every program has and that takes values only. -/
def callBuiltin (x : Setting) (function : Builtin) (arguments : List Value) : Eval Value := do
  let first := arguments.headD .empty
  let number (f : Float → Float) : Eval Value := return .number (f first.toNumber)
  match function, arguments with
  | .atan2, [a, b] => return .number (Float.atan2 a.toNumber b.toNumber)
  | .cos, [_] => number Float.cos
  | .sin, [_] => number Float.sin
  | .exp, [_] => number Float.exp
  | .log, [_] => number Float.log
  | .sqrt, [_] => number Float.sqrt
  | .int, [_] => number fun y => if y < 0 then y.ceil + 0.0 else y.floor
  | .length, [] => return .number (Float.ofNat (← textOf (← get).record).length)
  | .length, [v] => return .number (Float.ofNat (← textOf v).length)
  | .lower, [v] => return .text ((← textOf v).map Char.toLower)
  | .upper, [v] => return .text ((← textOf v).map Char.toUpper)
  | .index, [a, b] => do
    let text ← textOf a
    return .number (Float.ofNat (indexOf text (← textOf b) (text.length + 1) 1))
  | .substr, [v, start] => return .text (partOf (← textOf v) start.toNumber none)
  | .substr, [v, start, length] =>
    return .text (partOf (← textOf v) start.toNumber (some length.toNumber))
  | .sprintf, format :: others => do
    let text ← textOf format
    match formatValues (← numberFormat) (text.length + 1) text others with
    | (text, true) => return .text text
    | _ => fault
  | .close, v :: _ => do closeName x (← textOf v)
  | .system, [v] => do runSystem x (← textOf v)
  | .flush, _ => do
    flushOut
    return .number 0
  | .rand, [] => nextRandom
  | .srand, _ => do
    let before := (← get).seed
    modify fun m => { m with seed := (wholePart first.toNumber).natAbs }
    return .number (Float.ofNat before)
  | .strftime, arguments => do
    let format ← match arguments with
      | [] => pure "%c".toList
      | v :: _ => textOf v
    let now := (← outside getWorld).clock / 1000000000
    let seconds : Int := (arguments[1]?).elim (now : Int) fun v => wholePart v.toNumber
    return .text ((Moment.ofSeconds seconds).format 0 (2 * format.length + 40) format)
  | .mktime, [v] => do
    let text ← textOf v
    let words := (text.splitOn ' ').filter fun w => !w.isEmpty
    match words.mapM decimal? with
    | some (year :: month :: day :: hour :: minute :: second :: _) => do
      let days := daysOf (year + (month - 1).fdiv 12) ((month - 1).fmod 12 + 1).toNat 1 + day - 1
      return .number (Float.ofInt (days * 86400 + hour * 3600 + minute * 60 + second))
    | _ => return .number (-1)
  | .systime, [] => return .number (Float.ofNat ((← outside getWorld).clock / 1000000000))
  | _, _ => fault

/-- Cuts a text into the elements of an array. -/
def splitInto (name : Chars) (parts : List Chars) : Eval Value := do
  setTable (← arrayOf name) (.ofList (parts.map .input))
  return .number (Float.ofNat parts.length)

/-- Replaces what fits in a place. -/
def replaceIn (all : Bool) (search : Search) (replacement : Chars) (spot : Spot) : Eval Value := do
  let text := (← textOf (← spot.get)).toArray
  let (count, made) := replaceFits search replacement all text (text.size + 2) none 0
  if 0 < count then spot.set (.text made)
  return .number (Float.ofNat count)

/-- What a function does that every program has. -/
def applyBuiltin (x : Setting) (function : Builtin) (arguments : List (Meaning × Value)) :
    Eval Value := do
  match function, arguments with
  | .length, [(m, v)] => do
    match ← (m.name?.mapM knownArray?) with
    | some (some number) => return .number (Float.ofNat (← withTable number fun t => (t.size, t)))
    | _ => callBuiltin x .length [v]
  | .match_, [(_, v), (m, _)] => do
    let text ← textOf v
    matchIn text (← m.search)
  | .split, (_, v) :: (m, _) :: others =>
    match m.name?, others with
    | some name, [] => do
      splitInto name (← splitText (← globalText "FS") (← textOf v))
    | some name, [(.pattern pattern, _)] => do
      let text ← textOf v
      let search ← searchOf pattern
      splitInto name
        (if text.isEmpty then [] else splitBySearch search text.toArray (text.length + 1) 0)
    | some name, [(_, separator)] => do
      splitInto name (← splitText (← textOf separator) (← textOf v))
    | _, _ => fault
  | .sub all, [(m, _), (_, v)] => do
    replaceIn all (← m.search) (← textOf v) (.field 0)
  | .sub all, [(m, _), (_, v), (.spot spot, _)] => do
    replaceIn all (← m.search) (← textOf v) spot
  | .sub all, [(m, _), (_, v), (_, w)] => do
    let text := (← textOf w).toArray
    let (count, _) := replaceFits (← m.search) (← textOf v) all text (text.size + 2) none 0
    return .number (Float.ofNat count)
  | function, arguments => do
    let values ← arguments.mapM fun (m, v) =>
      match m with
      | .pattern _ => m.get
      | _ => return v
    callBuiltin x function values

mutual

/-- What an expression means, once all that is done in it has been done. -/
def eval (x : Setting) : Expr → Eval Meaning
  | .number value => return .value (.number value)
  | .text text => return .value (.text text)
  | .regex text => return .pattern text
  | .read place => return .spot (← spotOf x place)
  | .assign place operation value => do
    let spot ← spotOf x place
    let v ← (← eval x value).get
    let v ← match operation with
      | none => pure v
      | some operation => do
        pure (Value.number (operate operation (← spot.get).toNumber v.toNumber))
    spot.set v
    return .value v
  | .step place by_ isBefore => do
    let spot ← spotOf x place
    let before := (← spot.get).toNumber
    spot.set (.number (before + by_))
    return .value (.number (if isBefore then before + by_ else before))
  | .operate operation a b => do
    let v ← (← eval x a).get
    let w ← (← eval x b).get
    return .value (.number (operate operation v.toNumber w.toNumber))
  | .negate a => return .value (.number (-(← (← eval x a).get).toNumber))
  | .toNumber a => return .value (.number (← (← eval x a).get).toNumber)
  | .compare comparison a b => do
    let v ← (← eval x a).get
    let w ← (← eval x b).get
    return .value (truth (Value.compare (← numberFormat) comparison v w))
  | .both a b => do
    if (← (← eval x a).get).isTrue then
      return .value (truth (← (← eval x b).get).isTrue)
    else return .value (truth false)
  | .either a b => do
    if (← (← eval x a).get).isTrue then return .value (truth true)
    else return .value (truth (← (← eval x b).get).isTrue)
  | .not a => return .value (truth !(← (← eval x a).get).isTrue)
  | .join a b => do
    let v ← (← eval x a).get
    let w ← (← eval x b).get
    return .value (.text ((← textOf v) ++ (← textOf w)))
  | .fits negated a b => do
    let v ← (← eval x a).get
    let search ← (← eval x b).search
    return .value (truth (search.isIn (← textOf v) != negated))
  | .has subscripts array => do
    let key ← keyOf (← evalAll x subscripts)
    return .value (truth (← withTable (← arrayOf array) (·.has key)))
  | .choose condition a b => do
    if (← (← eval x condition).get).isTrue then return .value (← (← eval x a).get)
    else return .value (← (← eval x b).get)
  | .tuple items => do
    let values ← evalAll x items
    return .value (values.getLastD .empty)
  | .call function arguments => do
    let flags := (x.arrayParameters.lookup function).getD []
    return .value (← x.call function (← evalSlots x flags arguments))
  | .builtin function arguments => do
    return .value (← applyBuiltin x function (← evalSettled x arguments))
  | .getline source target => do
    let spot ← evalTarget x target
    return .value (← readSource x spot source)

/-- The place for a record that is read. -/
def evalTarget (x : Setting) : Option Place → Eval (Option Spot)
  | none => return none
  | some place => return some (← spotOf x place)

/-- Reads a record. -/
def readSource (x : Setting) (spot : Option Spot) : Source → Eval Value
  | .main => do takeRecord true spot (← nextMain readBound)
  | .file path => do readNamed x false (← textOf (← (← eval x path).get)) spot
  | .command text => do readNamed x true (← textOf (← (← eval x text).get)) spot

def evalAll (x : Setting) : List Expr → Eval (List Value)
  | [] => return []
  | e :: rest => do
    let v ← (← eval x e).get
    return v :: (← evalAll x rest)

/-- What expressions mean, with their values. -/
def evalSettled (x : Setting) : List Expr → Eval (List (Meaning × Value))
  | [] => return []
  | e :: rest => do
    let m ← (← eval x e).settled
    return m :: (← evalSettled x rest)

/-- The arguments of a function, of which some are arrays. -/
def evalSlots (x : Setting) : List Bool → List Expr → Eval (List Slot)
  | _, [] => return []
  | flags, e :: rest => do
    let m ← eval x e
    let slot ← match flags.headD false, m.name? with
      | true, some name => do pure (Slot.array (← arrayOf name))
      | true, none => fault
      | false, _ => do pure (Slot.value (← m.get))
    return slot :: (← evalSlots x flags.tail rest)

/-- The place that an expression names. -/
def spotOf (x : Setting) : Place → Eval Spot
  | .variable name => return .variable name
  | .field index => do return .field (← fieldNumber (← (← eval x index).get))
  | .element array subscripts => do
    let key ← keyOf (← evalAll x subscripts)
    return .element (← arrayOf array) key

end

end Switchboard.Shell.Records
