import Switchboard.Shell.Calculating

/-!
# Lines in another shape

Programs that put lines side by side, break them, number them, or write their blanks in another way.
-/

namespace Switchboard.Shell

/-! ### Lines side by side -/

/-- The marks of a list that are put between lines one after the other; an empty one is no mark. -/
def readMarks : Chars → List Chars
  | [] => []
  | '\\' :: '0' :: rest => [] :: readMarks rest
  | '\\' :: c :: rest => [(escapeLetter? c).getD c] :: readMarks rest
  | c :: rest => [c] :: readMarks rest

/-- Lines with marks between them, over and over again the same. -/
def joinMarked (marks : List Chars) (lines : List Chars) : Chars :=
  (lines.zipIdx.map fun (l, i) =>
    if i = 0 then l else (marks[(i - 1) % marks.length]?).getD [] ++ l).flatten

/-- Takes a line from each of some texts, named by their places; a text may be named twice. -/
def takeRow : (places : List Nat) → List (List Chars) → List (Option Chars) × List (List Chars)
  | [], texts => ([], texts)
  | place :: rest, texts =>
    match texts[place]? with
    | some (l :: lines) =>
      let (row, texts) := takeRow rest (texts.set place lines)
      (some l :: row, texts)
    | _ =>
      let (row, texts) := takeRow rest texts
      (none :: row, texts)

/-- Rows with a line of each text, in at most `n` rows: a text that is over gives empty lines. -/
def pasteRows (marks : List Chars) (places : List Nat) :
    (n : Nat) → List (List Chars) → List Chars
  | 0, _ => []
  | n + 1, texts =>
    let (row, texts) := takeRow places texts
    if row.all Option.isNone then []
    else joinMarked marks (row.map fun l => l.getD []) :: pasteRows marks places n texts

def pasteProgram (arguments : List Chars) : Run Unit :=
  withOptions "paste" { plain := ['s', 'z'], valued := ['d'], long :=
    [("delimiters", 'd'), ("serial", 's'), ("zero-terminated", 'z')] } 1 arguments fun o => do
    let marks := match readMarks ((o.value? 'd').getD ['\t']) with
      | [] => [[]]
      | marks => marks
    let paths := inputsOf o.operands
    let (inputs, files) := paths.eraseDups.partition (· = ['-'])
    setStatus 0
    let found ← files.mapM fun path => fromFile "paste" 1 path readAllInput
    if !o.has 's' && found.any (!·.isSome) then return ()
    let found := found ++ (← inputs.mapM fun path => fromFile "paste" 1 path readAllInput)
    let names := files ++ inputs
    let linesOf (path : Chars) : Option (List Chars) :=
      ((names.zip found).lookup path).join.map textLines
    if o.has 's' then
      -- The input is over once it was read.
      let texts := (paths.zipIdx.filterMap fun (path, i) =>
        if path = ['-'] && (paths.take i).contains path then some [] else linesOf path)
      writeOut (joinLines (texts.map (joinMarked marks)))
    else
      -- A file that is named twice is read twice, the input is not.
      let sources := paths.zipIdx.map fun (path, i) =>
        if path = ['-'] then paths.idxOf path else i
      let texts := paths.map fun path => (linesOf path).getD []
      let most := (texts.map List.length).foldl max 0 + 1
      writeOut (joinLines (pasteRows marks sources most texts))

/-! ### Broken lines -/

/-- The column behind a character. -/
def columnBehind (inBytes : Bool) (column : Nat) (c : Char) : Nat :=
  if inBytes then column + 1
  else if c = '\x08' then column - 1
  else if c = '\r' then 0
  else if c = '\t' then column + 8 - column % 8
  else column + 1

/-- How lines are broken. -/
structure Folding where
  width : Nat
  inBytes : Bool
  /-- Whether lines are broken behind blanks, if there are any. -/
  atBlanks : Bool

/-- Puts a character into a line that is kept the last character first, with the column that it
reaches. `done` holds what is finished, the last piece first; the character is tried again in at
most `n` lines that become shorter. -/
def Folding.put (f : Folding) (c : Char) : (n : Nat) → (done : List Chars) → (back : Chars) →
    (column : Nat) → List Chars × Chars × Nat
  | 0, done, back, column => (done, c :: back, columnBehind f.inBytes column c)
  | n + 1, done, back, column =>
    let next := columnBehind f.inBytes column c
    if next ≤ f.width || back.isEmpty then (done, c :: back, next)
    else
      let (word, front) := back.span fun c => c ≠ ' ' && c ≠ '\t'
      if f.atBlanks && !front.isEmpty then
        let column := word.reverse.foldl (columnBehind f.inBytes) 0
        f.put c n (('\n' :: front).reverse :: done) word column
      else f.put c n (('\n' :: back).reverse :: done) [] 0

/-- A text with its long lines broken. -/
def Folding.apply (f : Folding) (text : Chars) : Chars :=
  let (done, back, _) := text.foldl (fun (state : List Chars × Chars × Nat) c =>
    let (done, back, column) := state
    if c = '\n' then (('\n' :: back).reverse :: done, [], 0)
    else f.put c 3 done back column) ([], [], 0)
  (back.reverse :: done).reverse.flatten

def foldProgram (arguments : List Chars) : Run Unit :=
  let arguments := arguments.map fun a => match a with
    | '-' :: c :: rest => if c.isDigit then '-' :: 'w' :: c :: rest else a
    | a => a
  withOptions "fold" { plain := ['b', 's'], valued := ['w'], long :=
    [("bytes", 'b'), ("spaces", 's'), ("width", 'w')] } 1 arguments fun o => do
    match count? ((o.value? 'w').getD "80".toList) with
    | none => setStatus 1
    | some 0 => setStatus 1
    | some width => do
      setStatus 0
      (inputsOf o.operands).forM fun path => do
        let _ ← fromFile "fold" 1 path do
          writeOut (Folding.apply ⟨width, o.has 'b', o.has 's'⟩ (← readAllInput))

/-! ### Numbered lines -/

/-- Which lines get numbers. -/
inductive Numbered where
  | all
  | filled
  | none
  | fitting (search : Search)

/-- What a style of numbering is. -/
def Numbered.ofStyle? : Chars → Option Numbered
  | ['a'] => some .all
  | ['t'] => some .filled
  | ['n'] => some .none
  | 'p' :: pattern => (calculationDialect.parse false pattern).toOption.map .fitting
  | _ => Option.none

/-- How lines are numbered: in headers, bodies and footers. -/
structure Numbering where
  header : Numbered
  body : Numbered
  footer : Numbered
  first : Int
  step : Int
  width : Nat
  /-- What comes between a number and its line. -/
  separator : Chars
  atLeft : Bool
  hasZeros : Bool
  /-- Whether numbers go on from page to page. -/
  goesOn : Bool
  /-- How many empty lines count as one. -/
  joined : Nat
  delimiter : Chars

namespace Numbering

/-- A number in its width. -/
def number (s : Numbering) (n : Int) : Chars :=
  let digits := decimalChars n
  let room := s.width - digits.length
  if s.atLeft then digits ++ List.replicate room ' '
  else if !s.hasZeros then List.replicate room ' ' ++ digits
  else if n < 0 then '-' :: (List.replicate room '0' ++ digits.tail)
  else List.replicate room '0' ++ digits

/-- Numbers lines: `kind` says which of them, `count` is the next number, `blanks` how many empty
lines have no number yet. -/
def lines (s : Numbering) : (kind : Numbered) → (count : Int) → (blanks : Nat) →
    List Chars → List Chars
  | _, _, _, [] => []
  | kind, count, blanks, l :: rest =>
    let reset := if s.goesOn then count else s.first
    if s.delimiter ≠ [] && l = s.delimiter ++ s.delimiter ++ s.delimiter then
      [] :: s.lines s.header reset 0 rest
    else if s.delimiter ≠ [] && l = s.delimiter ++ s.delimiter then
      [] :: s.lines s.body reset 0 rest
    else if s.delimiter ≠ [] && l = s.delimiter then [] :: s.lines s.footer reset 0 rest
    else
      let isTaken := match kind with
        | .all => !l.isEmpty || s.joined ≤ blanks + 1
        | .filled => !l.isEmpty
        | .none => false
        | .fitting search => search.isIn l
      if isTaken then
        (s.number count ++ s.separator ++ l) :: s.lines kind (count + s.step) 0 rest
      else
        let blanks := if l.isEmpty then blanks + 1 else blanks
        (List.replicate (s.width + s.separator.length) ' ' ++ l) :: s.lines kind count blanks rest

end Numbering

def numberingOptions : OptionTable where
  plain := ['p']
  valued := ['b', 'd', 'f', 'h', 'i', 'l', 'n', 's', 'v', 'w']
  long := [("body-numbering", 'b'), ("section-delimiter", 'd'), ("footer-numbering", 'f'),
    ("header-numbering", 'h'), ("line-increment", 'i'), ("join-blank-lines", 'l'),
    ("number-format", 'n'), ("no-renumber", 'p'), ("number-separator", 's'),
    ("starting-line-number", 'v'), ("number-width", 'w')]

/-- What options ask for. -/
def Numbering.ofOptions? (o : Options) : Option Numbering := do
  let style (letter usual : Char) := Numbered.ofStyle? ((o.value? letter).getD [usual])
  let integer (letter : Char) := decimal? ((o.value? letter).getD ['1'])
  let format := (o.value? 'n').getD ['r', 'n']
  let width ← count? ((o.value? 'w').getD ['6'])
  let formats : List Chars := [['l', 'n'], ['r', 'n'], ['r', 'z']]
  if width = 0 || !formats.contains format then none
  else
    return {
      header := ← style 'h' 'n'
      body := ← style 'b' 't'
      footer := ← style 'f' 'n'
      first := ← integer 'v'
      step := ← integer 'i'
      width
      separator := (o.value? 's').getD ['\t']
      atLeft := format = ['l', 'n']
      hasZeros := format = ['r', 'z']
      goesOn := o.has 'p'
      joined := ← count? ((o.value? 'l').getD ['1'])
      delimiter := match (o.value? 'd').getD ['\\', ':'] with
        | [c] => [c, ':']
        | delimiter => delimiter }

def nlProgram (arguments : List Chars) : Run Unit :=
  withOptions "nl" numberingOptions 1 arguments fun o => do
    match Numbering.ofOptions? o with
    | none => setStatus 1
    | some s => do
      setStatus 0
      let text ← readFiles "nl" 1 o.operands
      writeOut (joinLines (s.lines s.body s.first 0 (textLines text)))

/-! ### Blanks -/

/-- The next stop behind a column: one of those that are named, or else the next multiple of the
only one. Behind all that are named, each column is a stop. -/
def nextStop (stops : List Nat) (column : Nat) : Nat :=
  match stops with
  | [width] => column + (width - column % width)
  | stops => (stops.find? fun s => column < s).getD (column + 1)

/-- The stops that a list names, as far as it can be read. -/
def readStops? (text : Chars) : Option (List Nat) := do
  let stops ← ((text.splitBy fun a b => (a != ',' && a != ' ') && (b != ',' && b != ' ')).filter
    fun g => g ≠ [','] && g ≠ [' ']).mapM count?
  if stops.isEmpty then some [8]
  else if stops.contains 0 || !(stops.zip stops.tail).all (fun (a, b) => decide (a < b)) then none
  else some stops

/-- A line with spaces in the place of tabs. -/
def expandLine (stops : List Nat) (onlyFirst : Bool) (text : Chars) : Chars :=
  let (back, _, _) := text.foldl (fun (state : Chars × Nat × Bool) c =>
    let (back, column, isFront) := state
    if c = '\t' && (isFront || !onlyFirst) then
      let stop := nextStop stops column
      (List.replicate (stop - column) ' ' ++ back, stop, isFront)
    else (c :: back, if c = '\x08' then column - 1 else column + 1, isFront && c = ' '))
    ([], 0, true)
  back.reverse

/-- Blanks from one column to another, with tabs as far as there are stops; a single space stays one
unless a tab follows it. -/
def blanksBetween (stops : List Nat) (endsInTab : Bool) : (n : Nat) → (first last : Nat) → Chars
  | 0, _, _ => []
  | n + 1, first, last =>
    if last ≤ first then []
    else
      let stop := nextStop stops first
      let isPast := match stops with
        | [_] => false
        | stops => stops.all fun s => s ≤ first
      if last < stop || isPast || (stop = first + 1 && stop = last && !endsInTab) then
        List.replicate (last - first) ' '
      else '\t' :: blanksBetween stops endsInTab n stop last

/-- A line with tabs in the place of spaces, at its front or everywhere. -/
def unexpandLine (stops : List Nat) (everywhere : Bool) :
    (n : Nat) → (isFront : Bool) → (column : Nat) → Chars → Chars
  | 0, _, _, text => text
  | n + 1, isFront, column, text =>
    match text with
    | [] => []
    | c :: rest =>
      if (c = ' ' || c = '\t') && (isFront || everywhere) then
        let (blanks, rest) := text.span fun c => c = ' ' || c = '\t'
        let last := blanks.foldl (fun column c =>
          if c = '\t' then nextStop stops column else column + 1) column
        let endsInTab := blanks.getLast? = some '\t'
        blanksBetween stops endsInTab (last - column) column last ++
          unexpandLine stops everywhere n isFront last rest
      else c :: unexpandLine stops everywhere n false (column + 1) rest

/-- The options of both programs for blanks: a number is a stop. -/
def stopArguments (arguments : List Chars) : List Chars :=
  arguments.map fun a => match a with
    | '-' :: c :: rest => if c.isDigit then '-' :: 't' :: c :: rest else a
    | a => a

def expandOptions : OptionTable where
  plain := ['i']
  valued := ['t']
  long := [("initial", 'i'), ("tabs", 't')]

def expandProgram (arguments : List Chars) : Run Unit :=
  withOptions "expand" expandOptions 1 (stopArguments arguments) fun o => do
    match readStops? ((o.value? 't').getD ['8']) with
    | none => setStatus 1
    | some stops => do
      setStatus 0
      let text ← readFiles "expand" 1 o.operands
      writeOut (List.intercalate ['\n'] ((text.splitOn '\n').map (expandLine stops (o.has 'i'))))

def unexpandProgram (arguments : List Chars) : Run Unit :=
  withOptions "unexpand" { plain := ['a', 'F'], valued := ['t'], long :=
    [("all", 'a'), ("first-only", 'F'), ("tabs", 't')] } 1 (stopArguments arguments) fun o => do
    match readStops? ((o.value? 't').getD ['8']) with
    | none => setStatus 1
    | some stops => do
      setStatus 0
      let text ← readFiles "unexpand" 1 o.operands
      let everywhere := (o.has 'a' || o.has 't') && !o.has 'F'
      writeOut (List.intercalate ['\n'] ((text.splitOn '\n').map fun l =>
        unexpandLine stops everywhere (l.length + 1) true 0 l))

end Switchboard.Shell
