import Switchboard.Shell.Edits
import Switchboard.Shell.Streams

/-!
# Editing streams

The program `sed` goes through its input line by line and does its commands on each line that their
addresses select.
-/

namespace Switchboard.Shell

/-! ### Replacing -/

/-- How letters are changed: from here on, and the next one. -/
structure LetterState where
  lasting : LetterCase
  next : LetterCase

/-- A text with its letters changed. -/
def LetterState.apply (s : LetterState) : Chars → Chars × LetterState
  | [] => ([], s)
  | c :: rest =>
    let change (by_ : LetterCase) (c : Char) : Char :=
      match by_ with
      | .upper => c.toUpper
      | .nextUpper => c.toUpper
      | .lower => c.toLower
      | .nextLower => c.toLower
      | .unchanged => c
    let first := change (if s.next = .unchanged then s.lasting else s.next) c
    (first :: rest.map (change s.lasting), { s with next := .unchanged })

/-- The text that a replacement stands for. -/
def fillIn (whole : Chars) (groups : List (Nat × Chars)) : LetterState → List Filling → Chars
  | _, [] => []
  | s, .text text :: rest =>
    let (text, s) := s.apply text
    text ++ fillIn whole groups s rest
  | s, .group i :: rest =>
    let (text, s) := s.apply (if i = 0 then whole else (groups.lookup i).getD [])
    text ++ fillIn whole groups s rest
  | s, .letters change :: rest =>
    let s := match change with
      | .nextUpper => { s with next := .nextUpper }
      | .nextLower => { s with next := .nextLower }
      | change => { s with lasting := change }
    fillIn whole groups s rest

/-- A text from a place on, with what fits replaced from the `nth` fit on, or only there. Nothing
that is empty fits right behind another fit, which ended at `last`. There is no result if nothing is
replaced. -/
def replaceFrom (search : Search) (replacement : List Filling) (all : Bool) (text : Array Char) :
    (fuel nth : Nat) → (last : Option Nat) → (position : Nat) → Option Chars
  | 0, _, _, _ => none
  | n + 1, nth, last, position => do
    let fit ← search.find? text position
    let whole := textBetween text fit.first fit.last
    let before := textBetween text position fit.first
    let isEmpty := fit.last = fit.first
    let kept := if isEmpty then textBetween text fit.first (fit.first + 1) else []
    let next := fit.last + kept.length
    let others (nth : Nat) :=
      if isEmpty && text.size ≤ fit.first then none
      else replaceFrom search replacement all text n nth (some fit.last) next
    if isEmpty && last = some fit.first then (others nth).map fun rest => before ++ kept ++ rest
    else if 1 < nth then (others (nth - 1)).map fun rest => before ++ whole ++ kept ++ rest
    else
      let filled := fillIn whole fit.groups ⟨.unchanged, .unchanged⟩ replacement
      let behind := textBetween text next text.size
      some (before ++ filled ++ kept ++ if all then (others 1).getD behind else behind)

/-! ### The editor -/

/-- How the program goes through its input. -/
structure EditorStyle where
  quiet : Bool
  unbuffered : Bool
  /-- What ends a line. -/
  mark : Char
  /-- Whether some address asks for the last line, so that one line is read ahead. -/
  looksAhead : Bool
  /-- The files that are written. -/
  files : List (Chars × Channel)

/-- What is shown behind a line. -/
inductive Behind where
  | text (text : Chars)
  | file (path : Chars)

/-- Where the program stands. -/
structure Editor where
  line : Chars
  /-- Whether the line has a line break. -/
  complete : Bool
  number : Nat
  aside : Chars
  /-- The lines of the files that are to be read, if it is not the input. -/
  source : Option (List (Chars × Bool))
  /-- The line that was read ahead. -/
  ahead : Option (Chars × Bool)
  /-- Whether the input has ended. -/
  ended : Bool
  /-- The commands whose range of lines has begun, with the line that ends it, if that is known. -/
  active : List (Nat × Option Nat)
  behind : List Behind
  /-- What was written but is not out yet, the last first, and whether it lacks its line break. -/
  held : List Chars
  owes : Bool
  /-- The status with which the program ends early. -/
  finish : Option Nat
  /-- Whether something was replaced in this line. -/
  replaced : Bool
  /-- The regular expression that was used last. -/
  latest : Option Search
  /-- Whether the commands begin again on what is left of the line. -/
  again : Bool

/-- How the commands on a line have ended. -/
inductive CycleEnd where
  | whole
  /-- The line is not shown. -/
  | dropped

namespace Editor

def start (source : Option (List (Chars × Bool))) (active : List (Nat × Option Nat)) : Editor where
  line := []
  complete := true
  number := 0
  aside := []
  source := source
  ahead := none
  ended := false
  active := active
  behind := []
  held := []
  owes := false
  finish := none
  replaced := false
  latest := none
  again := false

/-- Writes a text as it is. -/
def writeRaw (style : EditorStyle) (e : Editor) (text : Chars) (owes : Bool) : Run Editor := do
  let text := (if e.owes then [style.mark] else []) ++ text
  if style.unbuffered then
    writeOut text
    return { e with owes }
  else return { e with held := text :: e.held, owes }

/-- Writes a line. -/
def write (style : EditorStyle) (e : Editor) (text : Chars) (complete : Bool) : Run Editor :=
  e.writeRaw style (text ++ if complete then [style.mark] else []) !complete

/-- Writes a line to a file. -/
def writeFile (style : EditorStyle) (e : Editor) (path text : Chars) : Run Editor := do
  match style.files.lookup path with
  | some channel =>
    writeThrough channel (text ++ if e.complete then [style.mark] else [])
    return e
  | none => e.write style text e.complete

/-- Shows what belongs behind the line. -/
def showBehind (style : EditorStyle) (e : Editor) : Run Editor := do
  let e' ← e.behind.foldlM (fun e item => do
    match item with
    | .text text => e.write style text true
    | .file path =>
      match ← openReading path with
      | .ok channel => do
        let saved := (← getThread).channels
        changeThread (·.setChannel 0 channel)
        let text ← readAllInput
        changeThread fun t => { t with channels := saved }
        if text.isEmpty then return e else e.writeRaw style text false
      | .error _ => return e) e
  return { e' with behind := [] }

/-- Reads a line. -/
def readRaw (style : EditorStyle) (e : Editor) : Run (Option (Chars × Bool) × Editor) := do
  match e.source with
  | some [] => return (none, e)
  | some (line :: rest) => return (some line, { e with source := some rest })
  | none =>
    match ← readInputLine .program (!style.unbuffered) 0 readBound [] with
    | (line, .complete) => return (some (line, true), e)
    | (line, _) => return (if line.isEmpty then none else some (line, false), e)

/-- Goes on to the next line; the answer is whether there is one. -/
def advance (style : EditorStyle) (e : Editor) : Run (Bool × Editor) := do
  let (found, e) ← match e.ahead with
    | some line => pure (some line, e)
    | none => if e.ended then pure (none, e) else e.readRaw style
  match found with
  | none => return (false, { e with ended := true })
  | some (line, complete) =>
    let e ← e.showBehind style
    let mayGoOn := complete || e.source.isSome
    let (ahead, e) ← if style.looksAhead && mayGoOn then e.readRaw style else pure (none, e)
    return (true,
      { e with
        line, complete, ahead
        number := e.number + 1
        ended := !mayGoOn || (style.looksAhead && ahead.isNone) })

/-- The regular expression that is meant, which then is the one that was used last. -/
def meantSearch (e : Editor) (search : Option Search) : Option Search × Editor :=
  let meant := search.or e.latest
  (meant, { e with latest := meant })

def isAt (e : Editor) : Point → Bool × Editor
  | .line n => (n = e.number, e)
  | .last => (e.ended && e.ahead.isNone, e)
  | .fitting search =>
    let (search, e) := e.meantSearch search
    ((search.map (·.isIn e.line)).getD false, e)
  | .stepping first step =>
    (if step = 0 then e.number = first else first ≤ e.number && (e.number - first) % step = 0, e)
  | .behind _ => (false, e)
  | .multiple _ => (false, e)

/-- The line at which a range ends that begins at this one, if that is known. -/
def lineOf? (e : Editor) : Point → Option Nat
  | .line n => some n
  | .behind n => some (e.number + n)
  | .multiple 0 => some e.number
  | .multiple n => some ((e.number + n - 1) / n * n)
  | _ => none

/-- Whether an address selects the line. -/
def selects (e : Editor) (index : Nat) (a : Address) : Bool × Editor :=
  let (selected, e) : Bool × Editor := match a.first, a.second with
    | none, _ => (true, e)
    | some first, none => e.isAt first
    | some first, some second =>
      let close (e : Editor) : Editor :=
        { e with active := e.active.filter fun (i, _) => i ≠ index }
      match e.active.lookup index with
      | some (some n) =>
        let (begins, later) := if n < e.number then e.isAt first else (true, e)
        (begins, if n ≤ e.number then close later else later)
      | some none =>
        let (ends, e) := e.isAt second
        (true, if ends then close e else e)
      | none =>
        let (begins, e) := e.isAt first
        if !begins then (false, e)
        else
          let final := e.lineOf? second
          let isDone := final.any fun n => decide (n ≤ e.number)
          (true, if isDone then e else { e with active := (index, final) :: e.active })
  (selected != a.negated, e)

/-- The place of a command in a list behind a label, or its end. -/
def placeOf (label : Chars) (all : List EditCommand) : Nat :=
  if label.isEmpty then all.length
  else ((all.findIdx? fun (_, edit) => match edit with
    | .label name => name = label
    | _ => false).getD all.length) + 1

/-- A character as it is revealed. -/
def revealed (c : Char) : Chars :=
  match c with
  | '\\' => ['\\', '\\']
  | '\x07' => ['\\', 'a']
  | '\x08' => ['\\', 'b']
  | '\x0c' => ['\\', 'f']
  | '\n' => ['\\', 'n']
  | '\r' => ['\\', 'r']
  | '\t' => ['\\', 't']
  | '\x0b' => ['\\', 'v']
  | c =>
    if ' ' ≤ c && c ≤ '~' then [c]
    else
      let digits := Nat.toDigits 8 c.toNat
      '\\' :: List.replicate (3 - digits.length) '0' ++ digits

/-- How wide lines are that reveal others. -/
def revealWidth : Nat := 69

/-- A line with its hidden characters revealed, in lines that are not too wide. -/
def reveal : (width : Nat) → Chars → Chars
  | _, [] => ['$']
  | width, c :: rest =>
    let shown := revealed c
    if revealWidth < width + shown.length then
      '\\' :: '\n' :: shown ++ reveal shown.length rest
    else shown ++ reveal (width + shown.length) rest

/-- The front of the line, up to its first line break. -/
def firstPart (e : Editor) : Chars := e.line.takeWhile (· ≠ '\n')

/-- Replaces in the line. -/
def substitute (style : EditorStyle) (e : Editor) (s : Substitution) : Run Editor := do
  let (search, e) := e.meantSearch s.search
  let text := e.line.toArray
  match search.bind fun search =>
    replaceFrom search s.replacement s.all text (text.size + 2) s.nth none 0 with
  | none => return e
  | some line => do
    let e := { e with line, replaced := true }
    let e ← if s.prints then e.write style line e.complete else pure e
    match s.file with
    | some path => e.writeFile style path line
    | none => return e

/-- Does a command that concerns the line alone; there is no answer for other commands. -/
def lineWork? (style : EditorStyle) (e : Editor) : Edit → Option (Run Editor)
  | .substitute s => some (e.substitute style s)
  | .transliterate source target =>
    some (return { e with line := e.line.map fun c => ((source.zip target).lookup c).getD c })
  | .print true => some (e.write style e.firstPart true)
  | .print false => some (e.write style e.line e.complete)
  | .reveal => some (e.write style (reveal 0 e.line) true)
  | .number => some (e.write style (decimalChars e.number) true)
  | .append text => some (return { e with behind := e.behind ++ [.text text] })
  | .insert text => some (e.write style text true)
  | .hold joined =>
    some (return { e with aside := if joined then e.aside ++ '\n' :: e.line else e.line })
  | .takeBack joined =>
    some (return { e with line := if joined then e.line ++ '\n' :: e.aside else e.aside })
  | .exchange => some (return { e with line := e.aside, aside := e.line })
  | .clear => some (return { e with line := [] })
  | .readFile path => some (return { e with behind := e.behind ++ [.file path] })
  | .writeFile firstOnly path =>
    some (e.writeFile style path (if firstOnly then e.firstPart else e.line))
  | .enter _ => some (return e)
  | .label _ => some (return e)
  | _ => none

/-- Does the commands from a place on, at most `n` of them. -/
def cycle (style : EditorStyle) (all : List EditCommand) : (n index : Nat) → Editor →
    Run (CycleEnd × Editor)
  | 0, _, e => return (.whole, e)
  | n + 1, index, e => do
    match all[index]? with
    | none => return (.whole, e)
    | some (address, edit) => do
      let (selected, e) := e.selects index address
      let goOn (e : Editor) := cycle style all n (index + 1) e
      match selected, edit with
      | false, .enter length => cycle style all n (index + 1 + length) e
      | false, _ => goOn e
      | true, .delete firstOnly =>
        match e.line.dropWhile (· ≠ '\n'), firstOnly with
        | _ :: rest, true => return (.dropped, { e with line := rest, again := true })
        | _, _ => return (.dropped, e)
      | true, .quit prints status =>
        return (if prints then .whole else .dropped, { e with finish := some status })
      | true, .change text =>
        let isEnd := (e.active.lookup index).isNone || address.negated
        return (.dropped, ← if isEnd then e.write style text true else pure e)
      | true, .next joined =>
        let quiet := joined || style.quiet
        let mayGoOn := !e.ended || e.ahead.isSome
        let shown ← if quiet || !mayGoOn then pure e else e.write style e.line e.complete
        let (more, later) ← advance style shown
        if !more then
          let isShown := quiet || !mayGoOn
          return (if isShown then .whole else .dropped, { later with finish := some 0 })
        else if joined then goOn { later with line := e.line ++ '\n' :: later.line }
        else goOn later
      | true, .branch label condition =>
        match condition with
        | none => cycle style all n (placeOf label all) e
        | some wanted =>
          let later := { e with replaced := false }
          if e.replaced = wanted then cycle style all n (placeOf label all) later
          else goOn later
      | true, edit =>
        match e.lineWork? style edit with
        | some work => do goOn (← work)
        | none => goOn e

/-- A bound on the commands that are done on a line. -/
def cycleBound : Nat := 100000

/-- Goes through the input, at most `n` lines of it. -/
def run (style : EditorStyle) (commands : List EditCommand) : (n : Nat) → Editor → Run Editor
  | 0, e => return e
  | n + 1, e => do
    let (more, e) ← if e.again then pure (true, e) else advance style e
    if !more then return e
    let replaced := e.again && e.replaced
    let (ending, e) ← cycle style commands cycleBound 0 { e with replaced, again := false }
    let e ← match ending, style.quiet with
      | .whole, false => e.write style e.line e.complete
      | _, _ => pure e
    let e ← e.showBehind style
    if e.finish.isSome then return e else run style commands n e

end Editor

/-! ### The program -/

def sedOptions : OptionTable where
  plain := ['n', 'u', 'E', 'r', 's', 'z']
  valued := ['e', 'f', 'l']
  attached := ['i']
  long := [("quiet", 'n'), ("silent", 'n'), ("unbuffered", 'u'), ("regexp-extended", 'E'),
    ("expression", 'e'), ("file", 'f'), ("separate", 's'), ("null-data", 'z'), ("in-place", 'i'),
    ("line-length", 'l'), ("posix", 'u')]

/-- The lines of a text with marks at their ends; the last one may lack its mark. -/
def markedLines (mark : Char) (text : Chars) : List (Chars × Bool) :=
  let pieces := text.splitOn mark
  pieces.dropLast.map (·, true) ++ match pieces.getLast? with
    | some [] => []
    | some last => [(last, false)]
    | none => []

/-- The script in the arguments of the options, or else in the first argument. -/
def editScript (o : Options) : Run (Option Chars × List Chars) := do
  let given ← (o.given.filter fun g => g.1 = 'e' || g.1 = 'f').mapM fun (letter, text) => do
    if letter = 'e' then return some text
    let found ← fromFile "sed" 1 text readAllInput
    return found.map fun cs => if cs.getLast? = some '\n' then cs.dropLast else cs
  match given, o.operands with
  | [], script :: paths => return (some script, paths)
  | [], [] => return (none, [])
  | given, paths => return ((given.mapM id).map (List.intercalate ['\n']), paths)

/-- The files that some commands write, opened. -/
def openFiles (commands : List EditCommand) : Run (List (Chars × Channel)) := do
  let paths := (commands.filterMap fun (_, edit) => match edit with
    | .substitute s => s.file
    | .writeFile _ path => some path
    | _ => none).eraseDups
  let found ← (paths.filter (· ≠ "/dev/stdout".toList)).mapM fun path => do
    return ((← openWriting (.replace true) path).toOption).map (path, ·)
  return found.filterMap id

/-- Edits some lines; what was written is shown at the end. -/
def editLines (style : EditorStyle) (commands : List EditCommand)
    (source : Option (List (Chars × Bool))) : Run (Option Nat) := do
  let zeros := commands.zipIdx.filterMap fun ((a, _), i) =>
    if a.first matches some (.line 0) then some (i, none) else none
  let last ← Editor.run style commands readBound (.start source zeros)
  writeOut last.held.reverse.flatten
  return last.finish

/-- Edits a file in its place, and keeps what it was before under another name if that is wanted.
-/
def editInPlace (style : EditorStyle) (commands : List EditCommand) (suffix path : Chars) :
    Run (Option Nat) := do
  match ← fromFile "sed" 4 path readAllInput with
  | none => return none
  | some text => do
    if !suffix.isEmpty then
      if let .ok channel ← openWriting (.replace true) (path ++ suffix) then
        writeThrough channel text
    match ← openWriting (.replace true) path with
    | .error _ => return none
    | .ok channel => do
      let saved := (← getThread).channels
      changeThread (·.setChannel 1 channel)
      let finish ← editLines style commands (some (markedLines style.mark text))
      changeThread fun t => { t with channels := saved }
      return finish

/-- Goes through files one by one, until one of them ends everything. -/
def untilFinished (body : Chars → Run (Option Nat)) : List Chars → Run (Option Nat)
  | [] => return none
  | path :: rest => do
    match ← body path with
    | some status => return some status
    | none => untilFinished body rest

/-- Edits its input or files line by line. -/
def sedProgram (arguments : List Chars) : Run Unit :=
  withOptions "sed" sedOptions 1 arguments fun o => do
    let (script, paths) ← editScript o
    let hidden := script.any fun text => text = ['#', 'n'] || ['#', 'n', '\n'].isPrefixOf text
    match script.bind (parseEdits? (o.has 'E' || o.has 'r')) with
    | none => setStatus 1
    | some commands => if !hasLabels commands then setStatus 4 else do
      setStatus 0
      let isLast (point : Option Point) : Bool := point matches some .last
      let style : EditorStyle :=
        { quiet := o.has 'n' || hidden, unbuffered := o.has 'u'
          mark := if o.has 'z' then '\x00' else '\n'
          looksAhead := commands.any fun (a, _) => isLast a.first || isLast a.second
          files := ← openFiles commands }
      let linesOf (path : Chars) : Run (Option (List (Chars × Bool))) := do
        return (← fromFile "sed" 2 path readAllInput).map (markedLines style.mark)
      let finish ← match o.value? 'i', o.has 's', paths with
        | some suffix, _, paths => untilFinished (editInPlace style commands suffix) paths
        | none, true, paths =>
          untilFinished (fun path => do
            match ← linesOf path with
            | some lines => editLines style commands (some lines)
            | none => return none) (inputsOf paths)
        | none, false, paths => do
          let source ← if paths.isEmpty && !o.has 'z' then pure none
            else do
              let found ← (inputsOf paths).mapM linesOf
              pure (some (found.filterMap id).flatten)
          editLines style commands source
      match finish with
      | some status => setStatus status
      | none => return ()

end Switchboard.Shell
