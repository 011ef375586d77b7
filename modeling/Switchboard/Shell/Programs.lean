import Switchboard.Shell.Calculating
import Switchboard.Shell.Conditions
import Switchboard.Shell.Digests
import Switchboard.Shell.Dumps
import Switchboard.Shell.Editing
import Switchboard.Shell.Facts
import Switchboard.Shell.Searching
import Switchboard.Shell.Shaping
import Switchboard.Shell.Translating

/-!
# Programs

The programs that scripts use: each reads its input, writes its output and leaves a status. A
program that buffers its output writes all of it at the end.
-/

namespace Switchboard.Shell

/-! ### Copying -/

/-- How `cat` shows what it copies. -/
structure CatStyle where
  numbers : Bool
  /-- Only lines that are not empty get numbers. -/
  onlyFilled : Bool
  squeezes : Bool
  showsEnds : Bool
  showsTabs : Bool
  showsHidden : Bool
  deriving DecidableEq

/-- Where `cat` stands: the lines numbered so far, whether a line begins, how many empty lines came
before, and whether a carriage return waits for what follows it. -/
structure CatState where
  lines : Nat
  begins : Bool
  blanks : Nat
  held : Bool

/-- A byte that is written in other characters. -/
def showHidden (n : Nat) : Chars :=
  if n < 32 then ['^', Char.ofNat (n + 64)] else if n = 127 then ['^', '?'] else [Char.ofNat n]

namespace CatStyle

def shown (s : CatStyle) (c : Char) : Chars :=
  if c = '\t' then if s.showsTabs then ['^', 'I'] else [c]
  else if !s.showsHidden then [c]
  else if c.toNat < 128 then showHidden c.toNat
  else ['M', '-'] ++ showHidden (c.toNat - 128)

/-- The number before a line. -/
def number (s : CatStyle) (state : CatState) (filled : Bool) : CatState × Chars :=
  if state.begins && s.numbers && (filled || !s.onlyFilled) then
    let lines := state.lines + 1
    ({ state with lines }, alignRight 6 (decimalChars lines) ++ ['\t'])
  else (state, [])

/-- One character of the input. -/
def step (s : CatStyle) (state : CatState) (c : Char) : CatState × Chars :=
  let (state, before) :=
    if state.held then
      let shown := if c = '\n' then ['^', 'M'] else ['\r']
      ({ state with held := false }, shown)
    else (state, [])
  if c = '\n' then
    if s.squeezes && state.begins && 1 ≤ state.blanks then (state, before)
    else
      let (next, number) := s.number state false
      let blanks := if state.begins then state.blanks + 1 else 0
      ({ next with begins := true, blanks },
        before ++ number ++ (if s.showsEnds then ['$'] else []) ++ ['\n'])
  else
    let (state, number) := s.number state true
    let state := { state with begins := false, blanks := 0 }
    if c = '\r' && s.showsEnds && !s.showsHidden then
      ({ state with held := true }, before ++ number)
    else (state, before ++ number ++ s.shown c)

/-- Some characters of the input. -/
def run (s : CatStyle) (state : CatState) (text : Chars) : CatState × Chars :=
  text.foldl (fun (state, out) c =>
    let (state, more) := s.step state c
    (state, out ++ more)) (state, [])

end CatStyle

/-- Hands the input on piece by piece, in at most `n` pieces. -/
def copyPieces (style : CatStyle) : (n : Nat) → CatState → Run CatState
  | 0, state => return state
  | n + 1, state => do
    match ← nextPiece .program 0 with
    | (none, _) => return state
    | (some text, _) =>
      if style = ⟨false, false, false, false, false, false⟩ then
        writeOut text
        copyPieces style n state
      else
        let (state, shown) := style.run state text
        writeOut shown
        copyPieces style n state

def catOptions : OptionTable where
  plain := "AbeEnstTuv".toList
  valued := []
  long := [("show-all", 'A'), ("number-nonblank", 'b'), ("show-ends", 'E'), ("number", 'n'),
    ("squeeze-blank", 's'), ("show-tabs", 'T'), ("show-nonprinting", 'v')]

/-- Hands its input or files on. -/
def catProgram (arguments : List Chars) : Run Unit :=
  withOptions "cat" catOptions 1 arguments fun o => do
    let style : CatStyle :=
      { numbers := o.has 'n' || o.has 'b', onlyFilled := o.has 'b', squeezes := o.has 's'
        showsEnds := o.has 'E' || o.has 'e' || o.has 'A'
        showsTabs := o.has 'T' || o.has 't' || o.has 'A'
        showsHidden := o.has 'v' || o.has 'e' || o.has 't' || o.has 'A' }
    setStatus 0
    let rec go : List Chars → CatState → Run CatState
      | [], state => return state
      | path :: rest, state => do
        let after ← fromFile "cat" 1 path (copyPieces style readBound state)
        go rest (after.getD state)
    let last ← go (inputsOf o.operands) ⟨0, true, 0, false⟩
    if last.held then writeOut ['\r']

def teeOptions : OptionTable where
  plain := ['a', 'i', 'p']
  valued := []
  long := [("append", 'a')]

/-- Hands its input on and writes it to files besides. -/
def teeProgram (arguments : List Chars) : Run Unit :=
  withOptions "tee" teeOptions 1 arguments fun o => do
      setStatus 0
      let mode : WriteMode := if o.has 'a' then .append else .replace true
      let opened ← o.operands.mapM fun path => do return (path, ← openWriting mode path)
      opened.forM fun (path, channel) => do
        if let .error reason := channel then
          writeError "tee" (shellName path ++ [':', ' '] ++ reason.toList)
          setStatus 1
      let channels := opened.filterMap fun (_, channel) => channel.toOption
      forEachPiece .program 0 (fun text => do
        writeOut text
        channels.forM fun c => writeThrough c text) readBound

/-! ### Waiting -/

/-- The nanoseconds in a span of time such as `0.2`, `3` or `1m`. -/
def spanNanos? (cs : Chars) : Option Nat :=
  let (whole, rest) := cs.span Char.isDigit
  let (fraction, rest) := match rest with
    | '.' :: rest => rest.span Char.isDigit
    | rest => ([], rest)
  let unit := match rest with
    | [] => some 1
    | ['s'] => some 1
    | ['m'] => some 60
    | ['h'] => some 3600
    | ['d'] => some 86400
    | _ => none
  if whole.isEmpty && fraction.isEmpty then none
  else unit.map fun u =>
    let digits := (fraction ++ List.replicate 9 '0').take 9
    (baseValue 10 whole * 1000000000 + baseValue 10 digits) * u

def sleepOptions : OptionTable where
  plain := []
  valued := []
  long := []

/-- Waits for the sum of some spans. -/
def sleepProgram (arguments : List Chars) : Run Unit :=
  withOptions "sleep" sleepOptions 1 arguments fun o => do
    let isEndless (span : Chars) : Bool := ["infinity", "inf"].contains (String.ofList span)
    let spans := o.operands.filter fun span => !isEndless span
    match spans.mapM spanNanos? with
    | some spans => do
      if o.operands.isEmpty then refuseUse "sleep" 1 "missing operand".toList
      else
        if spans.length < o.operands.length then
          let _ ← pause .program none none
        let _ ← pause .program (some (spans.foldl (· + ·) (← getWorld).clock)) none
        setStatus 0
    | none => do
      (spans.filter fun span => (spanNanos? span).isNone).forM fun span =>
        writeError "sleep" ("invalid time interval ".toList ++ betweenQuotes span)
      showHelp "sleep" 1

/-! ### Fronts and ends -/

/-- A number with a unit after it: `K` for 1024 and the like. -/
def unitCount? (cs : Chars) : Option Nat :=
  match cs.span Char.isDigit with
  | ([], _) => none
  | (digits, unit) =>
    let n := baseValue 10 digits
    match String.ofList unit with
    | "" => some n
    | "b" => some (n * 512)
    | "K" => some (n * 1024)
    | "k" => some (n * 1024)
    | "kB" => some (n * 1000)
    | "M" => some (n * 1048576)
    | "MB" => some (n * 1000000)
    | _ => none

/-- Arguments in which a count may be an option of its own. -/
def withCountOption : List Chars → List Chars
  | ('-' :: c :: digits) :: rest =>
    if c.isDigit then ['-', 'n'] :: (c :: digits) :: rest else ('-' :: c :: digits) :: rest
  | arguments => arguments

/-- The first `count` lines of the input. -/
def firstLines : (count : Nat) → List Chars → Run (List Chars)
  | 0, found => return found.reverse
  | n + 1, found => do
    match ← readInputLine .program true 0 readBound [] with
    | (line, .complete) => firstLines n ((line ++ ['\n']) :: found)
    | (line, _) => return (line :: found).reverse

/-- The first `count` characters of the input, read in at most `n` pieces. -/
def firstChars (count : Nat) : (n : Nat) → (found : List Chars) → (length : Nat) → Run Chars
  | 0, found, _ => return found.reverse.flatten
  | n + 1, found, length => do
    if count ≤ length then
      let all := found.reverse.flatten
      giveBack false 0 (all.drop count)
      return all.take count
    else match ← nextPiece .program 0 with
      | (some text, _) => firstChars count n (text :: found) (length + text.length)
      | (none, _) => return found.reverse.flatten

/-- What a program says about a count of lines or bytes that is none. -/
def refuseCount (program : String) (inChars : Bool) (text : Chars) : Run Unit := do
  writeError program (("invalid number of " ++ (if inChars then "bytes: " else "lines: ")).toList ++
    betweenQuotes text)
  setStatus 1

def endOptions : OptionTable where
  plain := ['q', 'v', 'z', 'f', 'F']
  valued := ['n', 'c', 's']
  long := [("lines", 'n'), ("bytes", 'c'), ("quiet", 'q'), ("silent", 'q'), ("verbose", 'v'),
    ("zero-terminated", 'z'), ("follow", 'f')]

/-- Does something for each file, under its name if there are more than one. -/
def underNames (program : String) (o : Options) (body : Chars → Run Unit) : Run Unit := do
  let paths := inputsOf o.operands
  let named := (1 < paths.length && !o.has 'q') || o.has 'v'
  let rec go : (first : Bool) → List Chars → Run Unit
    | _, [] => return ()
    | first, path :: rest => do
      let shown := if path = ['-'] then "standard input".toList else path
      let head := if named then "==> ".toList ++ shown ++ " <==\n".toList else []
      let _ ← fromFile program 1 path do
        writeOut ((if named && !first then ['\n'] else []) ++ head)
        body path
      go false rest
  setStatus 0
  go true paths

/-- Writes the front of its input. -/
def headProgram (arguments : List Chars) : Run Unit :=
  withOptions "head" endOptions 1 (withCountOption arguments) fun o => do
    let inChars := o.has 'c'
    let text := ((if inChars then o.value? 'c' else o.value? 'n').getD ['1', '0'])
    let (fromEnd, digits) := match text with
      | '-' :: digits => (true, digits)
      | digits => (false, digits)
    match unitCount? digits with
    | none => refuseCount "head" inChars digits
    | some count => underNames "head" o fun path => do
      if fromEnd then
        let all ← readAllInput
        let lines := wholeLines all
        writeOut (if inChars then all.take (all.length - count)
          else (lines.take (lines.length - count)).flatten)
      else if !inChars then writeOut (← firstLines count []).flatten
      else if path = "/dev/zero".toList then writeOut (List.replicate count '\x00')
      else writeOut (← firstChars count readBound [] 0)

/-- Writes the end of its input. If it follows the input, it never ends. -/
def tailProgram (arguments : List Chars) : Run Unit :=
  withOptions "tail" endOptions 1 (withCountOption arguments) fun o => do
    let inChars := o.has 'c'
    let text := ((if inChars then o.value? 'c' else o.value? 'n').getD ['1', '0'])
    let (fromFront, digits) := match text with
      | '+' :: digits => (true, digits)
      | '-' :: digits => (false, digits)
      | digits => (false, digits)
    match unitCount? digits with
    | none => refuseCount "tail" inChars (if fromFront then text else digits)
    | some count => do
      underNames "tail" o fun _ => do
        let all ← readAllInput
        let pieces := if inChars then all.map fun c => [c] else wholeLines all
        writeOut (pieces.drop (if fromFront then count - 1 else pieces.length - count)).flatten
      if (o.has 'f' || o.has 'F') && !o.operands.isEmpty then
        let _ ← pause .program none none

/-! ### Lines in another order -/

/-- Writes a line for as long as anyone could read it. -/
def yesProgram (arguments : List Chars) : Run Unit := do
  let line := if arguments.isEmpty then ['y'] else List.intercalate [' '] arguments
  writeOut (joinLines (List.replicate 10000 line))
  setStatus 0

def revProgram (paths : List Chars) : Run Unit := do
  setStatus 0
  let text ← readFiles "rev" 1 paths
  writeOut (List.intercalate ['\n'] ((text.splitOn '\n').map List.reverse))

def tacProgram (paths : List Chars) : Run Unit := do
  setStatus 0
  writeOut (wholeLines (← readFiles "tac" 1 paths)).reverse.flatten

/-! ### Parts of lines -/

/-- What is wrong with a list of ranges. -/
inductive RangeFault where
  | fromZero
  | decreasing
  | noEnd
  | twoDashes
  | notNumber (text : Chars)

/-- What is wrong, in words, with ranges of fields or of characters. -/
def RangeFault.message (inFields : Bool) : RangeFault → Chars
  | fromZero =>
    ((if inFields then "fields" else "byte/character positions") ++ " are numbered from 1").toList
  | decreasing => "invalid decreasing range".toList
  | noEnd => "invalid range with no endpoint: -".toList
  | twoDashes => (if inFields then "invalid field range" else
      "invalid byte or character range").toList
  | notNumber text =>
    (if inFields then "invalid field value " else "invalid byte/character position ").toList ++
      betweenQuotes text

/-- One range, or one number, at the front of a list, with what follows it. -/
def readRange (cs : Chars) : Except RangeFault ((Nat × Option Nat) × Chars) :=
  let isBorder (c : Char) : Bool := c = ',' || c = ' ' || c = '\t'
  let ends (rest : Chars) : Bool := (rest.head?.map isBorder).getD true
  let (low, rest) := cs.span Char.isDigit
  let first := if low.isEmpty then 1 else baseValue 10 low
  match rest with
  | '-' :: rest =>
    if first = 0 then .error .fromZero
    else
      let (high, rest) := rest.span Char.isDigit
      if rest.head? = some '-' then .error .twoDashes
      else if !ends rest then .error (.notNumber rest)
      else if low.isEmpty && high.isEmpty then .error .noEnd
      else if high.isEmpty then .ok ((first, none), rest)
      else if baseValue 10 high < first then .error .decreasing
      else .ok ((first, some (baseValue 10 high)), rest)
  | rest =>
    if !ends rest then .error (.notNumber rest)
    else if low.isEmpty || first = 0 then .error .fromZero
    else .ok ((first, some first), rest)

/-- The ranges of a list, at most `n` of them. -/
def readRanges : (n : Nat) → Chars → Except RangeFault (List (Nat × Option Nat))
  | 0, _ => .ok []
  | n + 1, cs => do
    let (range, rest) ← readRange cs
    match rest with
    | [] => return [range]
    | _ :: rest => return range :: (← readRanges n rest)

/-- The members of a list whose places, counted from 1, are taken in. -/
def takePlaces {α : Type} (isTaken : Nat → Bool) (members : List α) : List α :=
  (members.zipIdx.filter fun (_, i) => isTaken (i + 1)).map Prod.fst

def cutOptions : OptionTable where
  plain := ['s', 'n', 'z', 'C']
  valued := ['b', 'c', 'd', 'f', 'o']
  long := [("delimiter", 'd'), ("fields", 'f'), ("bytes", 'b'), ("characters", 'c'),
    ("only-delimited", 's'), ("complement", 'C'), ("output-delimiter", 'o'),
    ("zero-terminated", 'z')]

/-- The ranges and the mark that options name, or what is wrong with them. -/
def cutRanges (o : Options) : Except Chars (List (Nat × Option Nat) × Char) := do
  let inFields := o.has 'f'
  let mark ← match o.value? 'd' with
    | none => pure '\t'
    | some [] => pure '\x00'
    | some [c] => pure c
    | some _ => throw "the delimiter must be a single character".toList
  match o.given.filter fun g => ['b', 'c', 'f'].contains g.1 with
  | [] => throw "you must specify a list of bytes, characters, or fields".toList
  | [(_, text)] =>
    if !inFields && o.has 'd' then
      throw "an input delimiter may be specified only when operating on fields".toList
    if !inFields && o.has 's' then
      throw "suppressing non-delimited lines makes sense\n\tonly when operating on fields".toList
    let ranges ← (readRanges (text.length + 1) text).mapError (RangeFault.message inFields)
    return (ranges, mark)
  | _ => throw "only one list may be specified".toList

def cutProgram (arguments : List Chars) : Run Unit :=
  withOptions "cut" cutOptions 1 arguments fun o => do
    match cutRanges o with
    | .error message => refuseUse "cut" 1 message
    | .ok (ranges, mark) => do
      let inFields := o.has 'f'
      setStatus 0
      let isTaken (n : Nat) : Bool :=
        (ranges.any fun (low, high) =>
          decide (low ≤ n) && (high.map fun h => decide (n ≤ h)).getD true) != o.has 'C'
      let border := if o.has 'z' then '\x00' else '\n'
      let pieces := (← readFiles "cut" 1 o.operands).splitOn border
      let lines := if pieces.getLast? = some [] then pieces.dropLast else pieces
      let joint := (o.value? 'o').getD [mark]
      let shown := lines.filterMap fun line =>
        if !inFields then
          if o.has 'o' then
            let places := line.zipIdx.splitBy fun a b => isTaken (a.2 + 1) == isTaken (b.2 + 1)
            let runs := places.filter fun r => (r.head?.map fun p => isTaken (p.2 + 1)).getD false
            some (List.intercalate joint (runs.map fun r => r.map Prod.fst))
          else some (takePlaces isTaken line)
        else if line.contains mark then
          some (List.intercalate joint (takePlaces isTaken (line.splitOn mark)))
        else if o.has 's' then none else some line
      writeOut (shown.flatMap (· ++ [border]))

/-! ### Counting -/

/-- A number with places behind the point: how many there are, and the number without the point. -/
structure PlacedNumber where
  places : Nat
  digits : Int

/-- The number that an argument is. -/
def PlacedNumber.read? (text : Chars) : Option PlacedNumber := do
  let (isNegative, text) := match text with
    | '-' :: rest => (true, rest)
    | '+' :: rest => (false, rest)
    | text => (false, text)
  let (whole, rest) := text.span Char.isDigit
  let fraction ← match rest with
    | [] => some []
    | '.' :: fraction => if fraction.all Char.isDigit then some fraction else none
    | _ => none
  if whole.isEmpty && fraction.isEmpty then none
  else
    let digits : Int := baseValue 10 (whole ++ fraction)
    some ⟨fraction.length, if isNegative then -digits else digits⟩

/-- The same number with other places, which are no fewer. -/
def PlacedNumber.atPlaces (n : PlacedNumber) (places : Nat) : Int :=
  n.digits * (Nat.pow 10 (places - n.places) : Nat)

/-- A number of units of the last place, with its point. -/
def placedChars (places : Nat) (n : Int) : Chars :=
  (if n < 0 then ['-'] else []) ++ fixedDigits n.natAbs (Nat.pow 10 places) places false

/-- The text of a number that has zeros in front up to a width. -/
def withZeros (width : Nat) (text : Chars) : Chars :=
  let zeros := List.replicate (width - text.length) '0'
  match text with
  | '-' :: digits => '-' :: (zeros ++ digits)
  | digits => zeros ++ digits

def countingOptions : OptionTable where
  plain := ['w']
  valued := ['f', 's']
  long := [("equal-width", 'w'), ("format", 'f'), ("separator", 's')]
  isLeading := true

/-- Options in front of numbers, which may begin with a sign. -/
def splitAtNumber : List Chars → List Chars × List Chars
  | [] => ([], [])
  | argument :: rest =>
    match argument with
    | '-' :: c :: _ =>
      if c.isDigit || c = '.' then ([], argument :: rest)
      else
        let (options, numbers) := splitAtNumber rest
        (argument :: options, numbers)
    | _ =>
      let (options, numbers) := splitAtNumber rest
      (argument :: options, numbers)

/-- What is wrong with a format for numbers: it needs one directive, for a number with places. -/
def formatFault? (format : Chars) : Option Chars :=
  let quotedFormat := "format ".toList ++ betweenQuotes format
  let rec find : Chars → Option Chars
    | [] => none
    | '%' :: '%' :: rest => find rest
    | '%' :: rest => some rest
    | _ :: rest => find rest
  match find format with
  | none => some (quotedFormat ++ " has no % directive".toList)
  | some rest =>
    let rest := rest.dropWhile fun c => "-+#0 '".toList.contains c
    let rest := match rest.dropWhile Char.isDigit with
      | '.' :: rest => rest.dropWhile Char.isDigit
      | rest => rest
    match rest with
    | [] => some (quotedFormat ++ " ends in %".toList)
    | c :: rest =>
      if !"efgaEFGA".toList.contains c then
        some (quotedFormat ++ " has unknown %".toList ++ c :: " directive".toList)
      else if (find rest).isSome then some (quotedFormat ++ " has too many % directives".toList)
      else none

/-- What `seq` says about arguments that it cannot use. -/
def countingFault? (o : Options) (words : List Chars) : Option (Run Unit) :=
  match words, words.find? fun w => (PlacedNumber.read? w).isNone with
  | [], _ => some (refuseUse "seq" 1 "missing operand".toList)
  | _ :: _ :: _ :: extra :: _, _ =>
    some (refuseUse "seq" 1 ("extra operand ".toList ++ betweenQuotes extra))
  | _, bad =>
    match (o.value? 'f').bind formatFault?, bad with
    | some message, _ => some do
      writeError "seq" message
      setStatus 1
    | none, some bad =>
      some (refuseUse "seq" 1 ("invalid floating point argument: ".toList ++ betweenQuotes bad))
    | none, none =>
      if o.has 'w' && o.has 'f' then
        some (refuseUse "seq" 1
          "format string may not be specified when printing equal width strings".toList)
      else none

/-- Writes the numbers from one to another. -/
def seqProgram (arguments : List Chars) : Run Unit :=
  let (front, negative) := splitAtNumber arguments
  withOptions "seq" countingOptions 1 front fun o => do
    let words := o.operands ++ negative
    let one : PlacedNumber := ⟨0, 1⟩
    let limits := match words.mapM PlacedNumber.read? with
      | some [last] => some (one, one, last)
      | some [first, last] => some (first, one, last)
      | some [first, step, last] => some (first, step, last)
      | _ => none
    match countingFault? o words, limits with
    | some fault, _ => fault
    | none, none => setStatus 1
    | none, some (first, step, last) => do
      let shown := max first.places step.places
      let places := max shown last.places
      let low := first.atPlaces places
      let by_ := step.atPlaces places
      let high := last.atPlaces places
      if by_ = 0 then
        refuseUse "seq" 1 ("invalid Zero increment value: ".toList ++
          betweenQuotes (words.getD 1 []))
      else
        let isPast := if 0 < by_ then decide (high < low) else decide (low < high)
        let count := if isPast then 0 else ((high - low) / by_ + 1).toNat
        let unit : Nat := Nat.pow 10 (places - shown)
        let lines := (List.range count).map fun i : Nat =>
          placedChars shown ((low + by_ * i) / unit)
        let wide (n : PlacedNumber) : Nat := (placedChars shown (n.atPlaces places / unit)).length
        let width := if o.has 'w' then max (wide first) (wide last) else 0
        let line (text : Chars) : Chars := match o.value? 'f' with
          | some format =>
            let format := format.flatMap fun c => if c = '\\' then ['\\', '\\'] else [c]
            (printfText format [text]).text
          | none => withZeros width text
        if !lines.isEmpty then
          writeOut (List.intercalate ((o.value? 's').getD ['\n']) (lines.map line) ++ ['\n'])
        setStatus 0

/-- The words, characters and lines of a text, as far as they are asked for. -/
def countsOf (o : Options) (text : Chars) : List Nat :=
  let all := !(o.has 'l' || o.has 'w' || o.has 'm' || o.has 'c' || o.has 'L')
  let words := (text.splitBy fun a b => isSpace a == isSpace b).filter fun w =>
    !isSpace (w.headD ' ')
  (if all || o.has 'l' then [text.count '\n'] else []) ++
    (if all || o.has 'w' then [words.length] else []) ++
    (if o.has 'm' then [text.length] else []) ++
    (if all || o.has 'c' then [text.length] else []) ++
    (if o.has 'L' then [((text.splitOn '\n').map List.length).foldl max 0] else [])

def wcProgram (arguments : List Chars) : Run Unit :=
  withOptions "wc" { plain := ['l', 'w', 'm', 'c', 'L'], valued := [], long :=
    [("lines", 'l'), ("words", 'w'), ("bytes", 'c'), ("chars", 'm'),
      ("max-line-length", 'L')] } 1 arguments fun o => do
    setStatus 0
    let found ← (inputsOf o.operands).mapM fun path => do
      let text ← fromFile "wc" 1 path readAllInput
      let isDirectory := path ≠ ['-'] && (← locate path) = .directory
      return (text.or (if isDirectory then some [] else none)).map fun text => (path, text)
    let texts := found.filterMap id
    let rows := texts.map fun (path, text) =>
      (countsOf o text, if o.operands.isEmpty then [] else ' ' :: path)
    let total := countsOf o (texts.flatMap Prod.snd)
    let rows := if 1 < o.operands.length then rows ++ [(total, " total".toList)] else rows
    let isPlain (path : Chars) : Run Bool := do
      return match ← locate path with
        | .directory => false
        | .device => false
        | _ => path ≠ ['-']
    let width := if o.operands.isEmpty || !(← o.operands.allM isPlain) then 7
      else (decimalChars (texts.foldl (fun n (_, text) => n + text.length) 0)).length
    let width := if total.length = 1 && rows.length = 1 then 0 else width
    writeOut <| joinLines <| rows.map fun (counts, name) =>
      List.intercalate [' '] (counts.map fun n : Nat => alignRight width (decimalChars n)) ++ name

/-! ### The table -/

def printenvProgram (names : List Chars) : Run Unit := do
  let t ← getThread
  let value? (name : Chars) := if t.exported.contains name then t.vars.lookup name else none
  if names.isEmpty then
    writeOut (joinLines ((t.vars.filter fun v => t.exported.contains v.1).map fun (name, value) =>
      name ++ ['='] ++ value))
    setStatus 0
  else
    writeOut (joinLines (names.filterMap value?))
    setStatus (if names.all fun name => (value? name).isSome then 0 else 1)

def testProgram (arguments : List Chars) : Run Unit := do
  setStatus (match evalTest (← surroundings) arguments with
    | .ok value => if value then 0 else 1
    | .error _ => 2)

def printfProgram (arguments : List Chars) : Run Unit := do
  match arguments with
  | format :: rest =>
    let formatted := printfText format rest
    writeOut formatted.text
    setStatus (min formatted.status 1)
  | [] => setStatus 1

/-- The directory with its links followed. -/
def pwdProgram : Run Unit := do
  let (place, _) ← find ['.']
  writeOut (place.toList ++ ['\n'])
  setStatus 0

/-- The programs by name. -/
def programs : List (String × (List Chars → Run Unit)) :=
  [("cat", catProgram), ("tee", teeProgram), ("yes", yesProgram), ("sleep", sleepProgram),
   ("sed", sedProgram), ("grep", grepProgram), ("egrep", fun a => grepProgram (['-', 'E'] :: a)),
   ("fgrep", fun a => grepProgram (['-', 'F'] :: a)), ("head", headProgram), ("tail", tailProgram),
   ("rev", revProgram), ("tac", tacProgram), ("sort", sortProgram), ("uniq", uniqProgram),
   ("comm", commProgram), ("cut", cutProgram), ("tr", trProgram), ("seq", seqProgram),
   ("wc", wcProgram), ("paste", pasteProgram), ("fold", foldProgram), ("nl", nlProgram),
   ("expand", expandProgram), ("unexpand", unexpandProgram), ("od", odProgram),
   ("base64", letterProgram "base64" .base64), ("base32", letterProgram "base32" .base32),
   ("printenv", printenvProgram), ("expr", exprProgram), ("test", testProgram),
   ("printf", printfProgram),
   ("[", fun a => if a.getLast? = some [']'] then testProgram a.dropLast else setStatus 2),
   ("echo", fun a => do
     writeOut (plainEchoText true false a)
     setStatus 0),
   ("true", fun _ => setStatus 0), ("false", fun _ => setStatus 1), ("pwd", fun _ => pwdProgram)] ++
  pathPrograms ++ digestPrograms ++ factPrograms

end Switchboard.Shell
