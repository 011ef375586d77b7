import Switchboard.Shell.Records.State

/-!
# Reading records

An input is read in blocks and cut into records at what stands between them: a character, empty
lines, or what fits a regular expression.
-/

namespace Switchboard.Shell.Records

/-- What the front of a buffer is. -/
inductive Cut where
  | record (text rest : Chars)
  /-- More has to be read before that is known. -/
  | more
  | finished

/-- The rest of a buffer as the last record. -/
def Cut.last (isEnded : Bool) (buffer : Chars) : Cut :=
  if !isEnded then .more else if buffer.isEmpty then .finished else .record buffer []

/-- The text up to two line breaks, and what is behind them. -/
def cutParagraph : Chars → Option (Chars × Chars)
  | [] => none
  | '\n' :: '\n' :: rest => some ([], rest)
  | c :: rest => (cutParagraph rest).map fun (text, rest) => (c :: text, rest)

/-- The first record in a buffer to which nothing is added any more if it is at the end. -/
def cutRecord (separator : Chars) (search : Option Search) (isEnded : Bool) (buffer : Chars) :
    Cut :=
  match separator, search with
  | [c], _ =>
    match buffer.span (· ≠ c) with
    | (text, _ :: rest) => .record text rest
    | (_, []) => .last isEnded buffer
  | [], _ =>
    let buffer := buffer.dropWhile (· = '\n')
    match cutParagraph buffer with
    | some (text, rest) => .record text (rest.dropWhile (· = '\n'))
    | none => .last isEnded (if buffer.getLast? = some '\n' && isEnded then buffer.dropLast
        else buffer)
  | _, none => .last isEnded buffer
  | _, some search =>
    let text := buffer.toArray
    match search.findWhere? (fun a b => decide (a < b)) text 0 with
    | some fit =>
      if fit.last < text.size || isEnded then
        .record (textBetween text 0 fit.first) (textBetween text fit.last text.size)
      else .more
    | none => .last isEnded buffer

/-- Does something with a channel in the place of the input. -/
def through {α : Type} (c : Channel) (work : Run α) : Run α := do
  let saved := (← getThread).channels
  changeThread (·.setChannel 0 c)
  let a ← work
  changeThread fun t => { t with channels := saved }
  return a

/-- How much is read at once. -/
def blockSize : Nat := 4096

/-- Reads until there is a block, or only what comes next, in at most `n` pieces. The answer says
whether the input has ended. -/
def readBlock (onlyNext : Bool) : (n length : Nat) → (found : List Chars) → Run (Chars × Bool)
  | 0, _, found => return (found.reverse.flatten, true)
  | n + 1, length, found => do
    match ← nextBlock .program 0 with
    | (some text, _) =>
      let length := length + text.length
      if onlyNext || blockSize ≤ length then return ((text :: found).reverse.flatten, false)
      else readBlock onlyNext n length (text :: found)
    | (none, _) => return (found.reverse.flatten, true)

namespace Feed

/-- A feed with more in its buffer. -/
def fill (feed : Feed) : Eval Feed := do
  match feed.source with
  | none => return feed
  | some channel => do
    let (text, isEnded) ←
      outside (through channel (readBlock (← get).interactive readBound 0 []))
    return { feed with
      buffer := feed.buffer ++ text
      source := if isEnded then none else some channel }

/-- The next record of a feed, for which it is filled at most `n` times. -/
def next (separator : Chars) (search : Option Search) : (n : Nat) → Feed →
    Eval (Option Chars × Feed)
  | 0, feed => return (none, feed)
  | n + 1, feed => do
    match cutRecord separator search feed.source.isNone feed.buffer with
    | .record text rest => return (some text, { feed with buffer := rest })
    | .finished => return (none, { feed with buffer := [] })
    | .more => next separator search n (← feed.fill)

end Feed

/-- The next record of a feed. -/
def recordOf (feed : Feed) : Eval (Option Chars × Feed) := do
  let separator ← globalText "RS"
  let search ← if 1 < separator.length then do pure (some (← searchOf separator)) else pure none
  feed.next separator search readBound

/-! ### The main input -/

/-- A text with its escapes done. -/
def unescaped (text : Chars) : Chars :=
  ((Token.readText (text.length + 2) (text ++ ['"'])).map Prod.fst).getD text

/-- A name and a value, if an argument is an assignment. -/
def assignmentOf? (argument : Chars) : Option (Chars × Chars) :=
  match argument.span (· ≠ '=') with
  | (name, '=' :: value) =>
    if (name.head?.map Token.isNameStart).getD false &&
        name.all fun c => Token.isNameStart c || c.isDigit then some (name, unescaped value)
    else none
  | _ => none

/-- A file as a feed, or the input. -/
def openFeed (path : Chars) : Eval (Option Feed) := do
  if path = ['-'] || path = "/dev/stdin".toList then
    let channel := ((← outside getThread).channels.lookup 0).getD .closed
    return some { buffer := [], source := some channel, status := none }
  match ← outside (find path) with
  | (_, .directory) => return none
  | _ =>
    match ← outside (openReading path) with
    | .ok channel => return some { buffer := [], source := some channel, status := none }
    | .error _ => return none

/-- The argument of a number. -/
def argumentAt (i : Nat) : Eval (Option Chars) := do
  let number ← arrayOf "ARGV".toList
  let key : Key := .whole i
  if ← withTable number (·.has key) then
    return some (← textOf (← withTable number (·.get key)))
  else return none

def takeMain (name : Chars) : Eval Unit := do
  match ← openFeed name with
  | none => fault
  | some feed =>
    setGlobal "FILENAME" (.text name)
    setGlobal "FNR" (.number 0)
    modify fun m => { m with main := some feed, hasRead := true }

/-- Goes on to the next argument that names an input, of at most `n`; `false` says that there is
none. -/
def nextOperand : (n : Nat) → Eval Bool
  | 0 => return false
  | n + 1 => do
    let m ← get
    let count := wholePart (← globalOf "ARGC").toNumber
    if count ≤ m.operand then
      if m.hasRead then return false
      takeMain ['-']
      return true
    else
      let argument := (← argumentAt m.operand).getD []
      modify fun m => { m with operand := m.operand + 1 }
      match argument.isEmpty, assignmentOf? argument with
      | true, _ => nextOperand n
      | false, some (name, value) => do
        setVariable name (.input value)
        nextOperand n
      | false, none => do
        takeMain argument
        return true

/-- The next record of the main input, for which at most `n` inputs are opened. -/
def nextMain : (n : Nat) → Eval (Option Chars)
  | 0 => return none
  | n + 1 => do
    match (← get).main with
    | none => if ← nextOperand readBound then nextMain n else return none
    | some feed =>
      match ← recordOf feed with
      | (some text, feed) =>
        modify fun m => { m with main := some feed }
        return some text
      | (none, _) =>
        modify fun m => { m with main := none }
        nextMain n

/-- Counts a record of the main input. -/
def countRecord : Eval Unit := do
  setGlobal "NR" (.number ((← globalOf "NR").toNumber + 1))
  setGlobal "FNR" (.number ((← globalOf "FNR").toNumber + 1))

end Switchboard.Shell.Records
