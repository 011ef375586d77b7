import Switchboard.Shell.Regex

/-!
# Editing commands

The commands of the program `sed`: each has an address, which selects lines, and does one thing.
They are written in a list, in which a block is a command that says how many commands it holds.
-/

namespace Switchboard.Shell

/-- Something in the input that may begin or end a range of lines. -/
inductive Point where
  | line (number : Nat)
  | last
  /-- A line in which a regular expression fits, or the one that was used last. -/
  | fitting (search : Option Search)
  /-- Every so manieth line from a line on. -/
  | stepping (first step : Nat)
  /-- The line so many lines behind the first one of a range. -/
  | behind (count : Nat)
  /-- The next line whose number is a multiple. -/
  | multiple (factor : Nat)

/-- The lines to which a command applies. -/
structure Address where
  first : Option Point
  second : Option Point
  negated : Bool

/-- How the letters behind a place of a replacement are changed. -/
inductive LetterCase where
  | upper
  | lower
  /-- Only the next letter. -/
  | nextUpper
  | nextLower
  | unchanged
  deriving DecidableEq, Repr

/-- A part of a replacement; group 0 is all that fits. -/
inductive Filling where
  | text (text : Chars)
  | group (index : Nat)
  | letters (change : LetterCase)

structure Substitution where
  /-- The regular expression, or the one that was used last. -/
  search : Option Search
  replacement : List Filling
  /-- The fit from which on things are replaced. -/
  nth : Nat
  /-- Whether later fits are replaced as well. -/
  all : Bool
  prints : Bool
  /-- A file to which lines are written in which something was replaced. -/
  file : Option Chars

/-- What an editing command does. -/
inductive Edit where
  | substitute (s : Substitution)
  | transliterate (source target : Chars)
  /-- Shows the line, or its first part only. -/
  | print (firstOnly : Bool)
  /-- Shows the line with its hidden characters. -/
  | reveal
  /-- Drops the line, or its first part only. -/
  | delete (firstOnly : Bool)
  | quit (prints : Bool) (status : Nat)
  | number
  | append (text : Chars)
  | insert (text : Chars)
  | change (text : Chars)
  /-- Goes on with the next line, or puts it behind this one. -/
  | next (joined : Bool)
  /-- Takes the line aside, or puts it behind what is aside. -/
  | hold (joined : Bool)
  /-- Takes back what is aside, or puts it behind the line. -/
  | takeBack (joined : Bool)
  | exchange
  | clear
  /-- Puts a file behind the line. -/
  | readFile (path : Chars)
  /-- Writes the line, or its first part only, to a file. -/
  | writeFile (firstOnly : Bool) (path : Chars)
  /-- Begins a block of so many commands. -/
  | enter (length : Nat)
  /-- Goes on at a label, or at the end, perhaps only if something was replaced or not. -/
  | branch (label : Chars) (ifReplaced : Option Bool)
  | label (name : Chars)

abbrev EditCommand := Address × Edit

/-! ### Texts -/

/-- The character of an escape that commands know, after its backslash. -/
def editEscape : Chars → Option (Char × Chars)
  | 'n' :: rest => some ('\n', rest)
  | 't' :: rest => some ('\t', rest)
  | 'r' :: rest => some ('\r', rest)
  | 'f' :: rest => some ('\x0c', rest)
  | 'v' :: rest => some ('\x0b', rest)
  | 'a' :: rest => some ('\x07', rest)
  | 'd' :: rest => ofDigits 10 3 Char.isDigit rest
  | 'o' :: rest => ofDigits 8 3 isOctal rest
  | 'x' :: rest => ofDigits 16 2 isHexDigit rest
  | _ => none
where
  /-- A character by its code, in at most `n` digits. -/
  ofDigits (base n : Nat) (isDigit : Char → Bool) (cs : Chars) : Option (Char × Chars) :=
    let digits := (cs.take n).takeWhile isDigit
    if digits.isEmpty then none
    else some (byteChar (baseValue base digits), cs.drop digits.length)

/-- How regular expressions are written in commands. -/
def editDialect (isExtended : Bool) : Dialect where
  isExtended
  isStrict := true
  allowsEmptyRanges := false
  allowsBareClasses := false
  items := wordItem?
  escape := editEscape
  quotesInSets := false

/-- The regular expression that a text is; an empty one is that which was used last. -/
def readSearch (isExtended isFolded : Bool) (text : Chars) : Option (Option Search) :=
  if text.isEmpty then some none
  else ((editDialect isExtended).parse isFolded text).toOption.map some

/-- Where a text is between two marks. -/
inductive SetPlace where
  | outside
  /-- Right behind the opening bracket. -/
  | opened
  | inside
  deriving DecidableEq

/-- The text up to a mark that is not escaped; an escaped mark stands for itself. In a regular
expression the marks in brackets do not count. -/
def upTo (mark : Char) (isRegex : Bool) : SetPlace → Chars → Option (Chars × Chars)
  | _, [] => none
  | .opened, c :: rest =>
    let next := if c = '^' then .opened else .inside
    (upTo mark isRegex next rest).map fun (t, r) => (c :: t, r)
  | .inside, c :: rest =>
    let next := if c = ']' then .outside else .inside
    (upTo mark isRegex next rest).map fun (t, r) => (c :: t, r)
  | .outside, '\\' :: c :: rest =>
    (upTo mark isRegex .outside rest).map fun (t, r) =>
      (if c = mark then c :: t else '\\' :: c :: t, r)
  | .outside, c :: rest =>
    if c = mark then some ([], rest)
    else
      let next := if isRegex && c = '[' then .opened else .outside
      (upTo mark isRegex next rest).map fun (t, r) => (c :: t, r)

/-- The parts of a replacement. -/
def readFillings : (fuel : Nat) → Chars → List Filling
  | 0, _ => []
  | n + 1, cs =>
    match cs with
    | [] => []
    | '&' :: rest => .group 0 :: readFillings n rest
    | '\\' :: 'U' :: rest => .letters .upper :: readFillings n rest
    | '\\' :: 'L' :: rest => .letters .lower :: readFillings n rest
    | '\\' :: 'u' :: rest => .letters .nextUpper :: readFillings n rest
    | '\\' :: 'l' :: rest => .letters .nextLower :: readFillings n rest
    | '\\' :: 'E' :: rest => .letters .unchanged :: readFillings n rest
    | '\\' :: c :: rest =>
      if c.isDigit then .group (c.toNat - '0'.toNat) :: readFillings n rest
      else match editEscape (c :: rest) with
        | some (c, rest) => .text [c] :: readFillings n rest
        | none => .text [c] :: readFillings n rest
    | c :: rest => .text [c] :: readFillings n rest

/-- A text in which escapes stand for characters, with what follows its line. A backslash at the end
of a line takes it on to the next one. -/
def readTextLine : (fuel : Nat) → Chars → Chars × Chars
  | 0, _ => ([], [])
  | n + 1, cs =>
    let add (c : Char) (rest : Chars) : Chars × Chars :=
      let (text, rest) := readTextLine n rest
      (c :: text, rest)
    match cs with
    | [] => ([], [])
    | '\n' :: rest => ([], '\n' :: rest)
    | '\\' :: c :: rest =>
      match editEscape (c :: rest) with
      | some (c, rest) => add c rest
      | none => add c rest
    | c :: rest => add c rest

def dropBlanks (cs : Chars) : Chars := cs.dropWhile fun c => c = ' ' || c = '\t'

/-- The text of a command up to the end of the line. -/
def lineText? (cs : Chars) : Option (Chars × Chars) :=
  let cs := dropBlanks cs
  let cs := match cs with
    | '\\' :: rest =>
      match dropBlanks rest with
      | '\n' :: rest => rest
      | _ => rest
    | cs => cs
  if cs.isEmpty then none else some (readTextLine (cs.length + 1) cs)

/-- The name of a file up to the end of the line. -/
def fileName (cs : Chars) : Chars × Chars := (dropBlanks cs).span (· ≠ '\n')

/-- The name of a label. -/
def readLabel (cs : Chars) : Chars × Chars :=
  (dropBlanks cs).span fun c => c ≠ ';' && c ≠ '\n' && c ≠ '\x7d' && c ≠ ' '

/-! ### Addresses -/

/-- The number at the front of a text. -/
def frontNumber (cs : Chars) : Nat × Chars :=
  let (digits, rest) := cs.span Char.isDigit
  (baseValue 10 digits, rest)

/-- A regular expression as a point, after the mark at its front. -/
def readFitting (isExtended : Bool) (mark : Char) (cs : Chars) :
    Option (Option Point × Chars) := do
  let (text, rest) ← upTo mark true .outside cs
  let (flags, rest) := rest.span fun c => c = 'I' || c = 'M'
  some (some (.fitting (← readSearch isExtended (flags.contains 'I') text)), rest)

def readPoint (isExtended : Bool) : Chars → Option (Option Point × Chars)
  | '/' :: rest => readFitting isExtended '/' rest
  | '\\' :: mark :: rest => readFitting isExtended mark rest
  | '$' :: rest => some (some .last, rest)
  | '+' :: rest =>
    let (count, rest) := frontNumber rest
    some (some (.behind count), rest)
  | '~' :: rest =>
    let (factor, rest) := frontNumber rest
    some (some (.multiple factor), rest)
  | c :: rest =>
    if !c.isDigit then some (none, c :: rest)
    else
      let (number, rest) := frontNumber (c :: rest)
      match rest with
      | '~' :: rest =>
        let (step, rest) := frontNumber rest
        some (some (.stepping number step), rest)
      | rest => some (some (.line number), rest)
  | [] => some (none, [])

def readAddress (isExtended : Bool) (cs : Chars) : Option (Address × Chars) := do
  let (first, rest) ← readPoint isExtended cs
  let (second, rest) ← match first, dropBlanks rest with
    | some _, ',' :: rest => do
      let (second, rest) ← readPoint isExtended (dropBlanks rest)
      if second.isNone then none else some (second, rest)
    | _, rest => some (none, rest)
  let isFitting (point : Option Point) : Bool := point matches some (.fitting _)
  let isRelative : Option Point → Bool
    | some (.behind _) => true
    | some (.multiple _) => true
    | _ => false
  let isZero (point : Option Point) : Bool := point matches some (.line 0)
  if isRelative first || (isZero first && !isFitting second) then none
  else
    let (marks, rest) := rest.span fun c => c = '!' || c = ' '
    some (⟨first, second, marks.contains '!'⟩, rest)

/-! ### Commands -/

/-- A replacement, after the letter of its command. -/
def readSubstitution (isExtended : Bool) (mark : Char) (cs : Chars) :
    Option (Substitution × Chars) := do
  let (text, rest) ← upTo mark true .outside cs
  let (replacement, rest) ← upTo mark false .outside rest
  let isFlag (c : Char) := ['g', 'p', 'i', 'I', 'm', 'M', 'e'].contains c || c.isDigit
  let (flags, rest) := rest.span isFlag
  let digits := flags.filter Char.isDigit
  let isFolded := flags.contains 'i' || flags.contains 'I'
  let search ← readSearch isExtended isFolded text
  let (file, rest) := match rest with
    | 'w' :: rest =>
      let (name, rest) := fileName rest
      (some name, rest)
    | rest => (none, rest)
  let s : Substitution :=
    { search
      replacement := readFillings (replacement.length + 1) replacement
      nth := if digits.isEmpty then 1 else baseValue 10 digits
      all := flags.contains 'g'
      prints := flags.contains 'p'
      file }
  if !digits.isEmpty && s.nth = 0 then none else some (s, rest)

/-- What an editing command without its address does. A block is not read here. -/
def readEdit (isExtended : Bool) : Chars → Option (Edit × Chars)
  | 's' :: mark :: rest => do
    let (s, rest) ← readSubstitution isExtended mark rest
    some (.substitute s, rest)
  | 'y' :: mark :: rest => do
    let (source, rest) ← upTo mark false .outside rest
    let (target, rest) ← upTo mark false .outside rest
    let (source, _) := readTextLine (source.length + 1) source
    let (target, _) := readTextLine (target.length + 1) target
    if source.length = target.length then some (.transliterate source target, rest) else none
  | 'q' :: rest =>
    let (status, rest) := frontNumber (dropBlanks rest)
    some (.quit true status, rest)
  | 'Q' :: rest =>
    let (status, rest) := frontNumber (dropBlanks rest)
    some (.quit false status, rest)
  | 'a' :: rest => (lineText? rest).map fun (text, rest) => (.append text, rest)
  | 'i' :: rest => (lineText? rest).map fun (text, rest) => (.insert text, rest)
  | 'c' :: rest => (lineText? rest).map fun (text, rest) => (.change text, rest)
  | 'p' :: rest => some (.print false, rest)
  | 'P' :: rest => some (.print true, rest)
  | 'l' :: rest => some (.reveal, (frontNumber (dropBlanks rest)).2)
  | 'd' :: rest => some (.delete false, rest)
  | 'D' :: rest => some (.delete true, rest)
  | '=' :: rest => some (.number, rest)
  | 'n' :: rest => some (.next false, rest)
  | 'N' :: rest => some (.next true, rest)
  | 'h' :: rest => some (.hold false, rest)
  | 'H' :: rest => some (.hold true, rest)
  | 'g' :: rest => some (.takeBack false, rest)
  | 'G' :: rest => some (.takeBack true, rest)
  | 'x' :: rest => some (.exchange, rest)
  | 'z' :: rest => some (.clear, rest)
  | 'r' :: rest => let (name, rest) := fileName rest; some (.readFile name, rest)
  | 'w' :: rest => let (name, rest) := fileName rest; some (.writeFile false name, rest)
  | 'W' :: rest => let (name, rest) := fileName rest; some (.writeFile true name, rest)
  | 'b' :: rest => let (name, rest) := readLabel rest; some (.branch name none, rest)
  | 't' :: rest => let (name, rest) := readLabel rest; some (.branch name (some true), rest)
  | 'T' :: rest => let (name, rest) := readLabel rest; some (.branch name (some false), rest)
  | ':' :: rest =>
    let (name, rest) := readLabel rest
    if name.isEmpty then none else some (.label name, rest)
  | _ => none

/-- The editing commands of a script, or those up to the end of a block, at most `n`. -/
def readEdits (isExtended : Bool) : (n : Nat) → Chars → Option (List EditCommand × Chars)
  | 0, _ => none
  | n + 1, cs =>
    match cs.dropWhile fun c => c = ' ' || c = ';' || c = '\n' || c = '\t' with
    | [] => some ([], [])
    | '\x7d' :: rest => some ([], '\x7d' :: rest)
    | '#' :: rest => readEdits isExtended n (rest.dropWhile (· ≠ '\n'))
    | cs => do
      let (address, rest) ← readAddress isExtended cs
      match dropBlanks rest with
      | '\x7b' :: rest =>
        match ← readEdits isExtended n rest with
        | (block, '\x7d' :: rest) => do
          let (others, rest) ← readEdits isExtended n rest
          some ((address, .enter block.length) :: block ++ others, rest)
        | _ => none
      | rest => do
        let (edit, rest) ← readEdit isExtended rest
        let rest := dropBlanks rest
        let ends := match rest with
          | [] => true
          | c :: _ => c = ';' || c = '\n' || c = '\x7d' || c = '#'
        if !ends then none
        else do
          let (others, rest) ← readEdits isExtended n rest
          some ((address, edit) :: others, rest)

/-- Whether each label at which some command goes on is there. -/
def hasLabels (commands : List EditCommand) : Bool :=
  commands.all fun (_, edit) =>
    match edit with
    | .branch label _ =>
      label.isEmpty || commands.any fun (_, other) =>
        match other with
        | .label name => name = label
        | _ => false
    | _ => true

/-- The commands that a whole text is. -/
def parseEdits? (isExtended : Bool) (text : Chars) : Option (List EditCommand) :=
  match readEdits isExtended (text.length + 2) text with
  | some (commands, []) => some commands
  | _ => none

end Switchboard.Shell
