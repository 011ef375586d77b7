import Switchboard.Shell.Regex
import Switchboard.Shell.Streams

/-!
# Searching lines

The program `grep` shows the lines of its input in which a regular expression fits.
-/

namespace Switchboard.Shell

def grepOptions : OptionTable where
  plain := "vciqnowxEFGPshHlLaUrRzyb".toList
  valued := ['e', 'f', 'm', 'A', 'B', 'C']
  attached := ['k']
  long := [("invert-match", 'v'), ("count", 'c'), ("ignore-case", 'i'), ("quiet", 'q'),
    ("silent", 'q'), ("line-number", 'n'), ("only-matching", 'o'), ("word-regexp", 'w'),
    ("line-regexp", 'x'), ("extended-regexp", 'E'), ("fixed-strings", 'F'), ("regexp", 'e'),
    ("basic-regexp", 'G'), ("perl-regexp", 'P'), ("file", 'f'), ("max-count", 'm'),
    ("line-buffered", 'U'), ("text", 'a'), ("no-messages", 's'), ("with-filename", 'H'),
    ("no-filename", 'h'), ("files-with-matches", 'l'), ("files-without-match", 'L'),
    ("recursive", 'r'), ("after-context", 'A'), ("before-context", 'B'), ("context", 'C'),
    ("color", 'k'), ("colour", 'k'), ("byte-offset", 'b'), ("null-data", 'z')]

/-- How regular expressions are written in the arguments; `hasDigits` adds the classes of digits and
the escapes of blanks. -/
def grepDialect (isExtended hasDigits : Bool) : Dialect where
  isExtended
  isStrict := false
  allowsEmptyRanges := false
  allowsBareClasses := false
  items := fun c =>
    let digits (negated : Bool) : RegexItem := .set ⟨negated, [('0', '9')], []⟩
    match c, hasDigits with
    | 'd', true => some (digits false)
    | 'D', true => some (digits true)
    | 't', true => some (.char '\t')
    | c, _ => wordItem? c
  escape := fun _ => none
  quotesInSets := hasDigits

/-- A search for a text itself. -/
def Search.ofText (isFolded : Bool) (text : Chars) : Search :=
  ⟨[text.map .char], 0, false, isFolded⟩

/-- What options and a text ask to be searched for: each line of the text is an alternative. -/
def searchesOf (o : Options) (text : Chars) : Except RegexFault (List Search) :=
  let isFolded := o.has 'i' || o.has 'y'
  (text.splitOn '\n').mapM fun line =>
    if o.has 'F' then .ok (Search.ofText isFolded line)
    else (grepDialect (o.has 'E' || o.has 'P') (o.has 'P')).parse isFolded line

/-- Whether a part of a line is what is asked for: a word, the whole line, or anything. -/
def isWanted (o : Options) (text : Array Char) (first last : Nat) : Bool :=
  let isWord (c : Option Char) := (c.map (wordSet false).has).getD false
  (!o.has 'x' || (first = 0 && last = text.size)) &&
    (!o.has 'w' || (!(0 < first && isWord text[first - 1]?) && !isWord text[last]?))

/-- The first of what is searched for from a place on, the longest one if some begin together. -/
def findFirst (o : Options) (searches : List Search) (text : Array Char) (place : Nat) :
    Option Fit :=
  (searches.filterMap fun s => s.findWhere? (isWanted o text) text place).foldl (fun best fit =>
    match best with
    | none => some fit
    | some other =>
      if fit.first < other.first || (fit.first = other.first && other.last < fit.last) then some fit
      else best) none

/-- The places in a line from the given one on that fit, at most `n` of them: where each begins and
ends. -/
def fittings (o : Options) (searches : List Search) (text : Array Char) :
    (n : Nat) → (place : Nat) → List (Nat × Nat)
  | 0, _ => []
  | n + 1, place =>
    match findFirst o searches text place with
    | none => []
    | some fit =>
      (fit.first, fit.last) ::
        if text.size ≤ fit.first then []
        else fittings o searches text n (max fit.last (fit.first + 1))

/-! ### Lines around others -/

/-- How many lines before and behind are shown too. -/
structure Surrounding where
  before : Nat
  behind : Nat

def Surrounding.of (o : Options) : Surrounding :=
  let both := (o.value? 'C').map natAtFront
  let count (letter : Char) := (((o.value? letter).map natAtFront).or both).getD 0
  ⟨count 'B', count 'A'⟩

/-- What was found in an input so far. -/
structure Found where
  count : Nat
  /-- What is shown, the last first. -/
  shown : List Chars
  /-- The lines before this one that are not shown, with their numbers, the last first. -/
  waiting : List (Nat × Chars)
  /-- How many lines behind a found one are still to be shown. -/
  left : Nat
  /-- The number of the line that was shown last. -/
  latest : Option Nat

/-- What is before a line that is shown: the name of its file and its number. -/
def grepHead (o : Options) (name : Option Chars) (joint : Char) (number : Nat) : Chars :=
  (name.map (· ++ [joint])).getD [] ++ if o.has 'n' then decimalChars number ++ [joint] else []

/-- The parts of a line that are shown if it was found. -/
def partsShown (o : Options) (places : List (Nat × Nat)) (line : Chars) : List Chars :=
  if !o.has 'o' then [line]
  else if o.has 'v' then []
  else (places.filter fun (a, b) => a < b).map fun (a, b) => (line.take b).drop a

/-- What is shown with a line that was found. -/
def Found.add (found : Found) (o : Options) (around : Surrounding) (name : Option Chars)
    (number : Nat) (parts : List Chars) : Found × Chars :=
  let before := (found.waiting.take around.before).reverse
  let first := (before.head?.map Prod.fst).getD number
  let isApart := (0 < around.before + around.behind) && found.latest.any fun n => n + 1 < first
  let text := (if isApart then "--\n".toList else []) ++
    joinLines (before.map fun (n, line) => grepHead o name '-' n ++ line) ++
    joinLines (parts.map (grepHead o name ':' number ++ ·))
  ({ found with
     count := found.count + 1, waiting := [], left := around.behind, latest := some number }, text)

/-- What is shown of a line that was not found. -/
def Found.pass (found : Found) (o : Options) (around : Surrounding) (name : Option Chars)
    (number : Nat) (line : Chars) : Found × Chars :=
  if 0 < found.left then
    ({ found with left := found.left - 1, latest := some number },
      grepHead o name '-' number ++ line ++ ['\n'])
  else ({ found with waiting := ((number, line) :: found.waiting).take around.before }, [])

/-- Goes through the lines of an input, at most `n` of them, until nothing more is wanted. -/
def grepLines (o : Options) (searches : List Search) (name : Option Chars) (most : Option Nat) :
    (n number : Nat) → Found → Run Found
  | 0, _, found => return found
  | n + 1, number, found => do
    if most = some found.count && found.left = 0 then return found
    let (line, ending) ← readInputLine .program true 0 readBound []
    if ending != .complete && line.isEmpty then return found
    else
      let text := line.toArray
      let isEnough := most = some found.count
      let places := if isEnough then [] else fittings o searches text (text.size + 2) 0
      let silent := o.has 'q' || o.has 'c' || o.has 'l' || o.has 'L'
      let around := if silent || o.has 'o' then ⟨0, 0⟩ else Surrounding.of o
      let (found, text) :=
        if isEnough || (places.isEmpty != o.has 'v') then found.pass o around name number line
        else found.add o around name number (partsShown o places line)
      let hidden := silent || text.isEmpty
      if o.has 'U' && !hidden then writeOut text
      let found :=
        { found with
          shown := if o.has 'U' || hidden then found.shown else text :: found.shown }
      if ending = .complete && !(o.has 'q' && 0 < found.count) then
        grepLines o searches name most n (number + 1) found
      else return found

/-! ### The program -/

/-- The files in a directory that the script has made, in the order of their names. -/
def filesBelow (path : Chars) : Run (List Chars) := do
  match ← find path with
  | (place, .directory) =>
    let front := (if place = "/" then "" else place) ++ "/"
    let names := (((← getWorld).made.filter fun m =>
      m.sink.isSome && front.isPrefixOf m.path).map fun m =>
        m.path.toList.drop front.length).mergeSort fun a b =>
          decide (String.ofList a < String.ofList b) || a = b
    return names.map fun name => path ++ '/' :: name
  | _ => return [path]

/-- What is shown of one input. -/
def grepInput (o : Options) (searches : List Search) (isNamed : Bool) (path : Chars) : Run Nat := do
  let name := if path = ['-'] then "(standard input)".toList else path
  let label := if isNamed then some name else none
  let most := (o.value? 'm').map natAtFront
  let found ← fromFile "grep" 2 path do
    let found ← grepLines o searches label most readBound 1 ⟨0, [], [], 0, none⟩
    if o.has 'q' then return found.count
    if o.has 'l' || o.has 'L' then
      if (0 < found.count) != o.has 'L' then writeOut (name ++ ['\n'])
    else if o.has 'c' then
      writeOut ((label.map (· ++ [':'])).getD [] ++ decimalChars found.count ++ ['\n'])
    else writeOut found.shown.reverse.flatten
    return found.count
  return found.getD 0

/-- Options in which a count of lines may be an option of its own. -/
def withContextOption (arguments : List Chars) : List Chars :=
  arguments.map fun argument =>
    match argument with
    | '-' :: c :: rest => if (c :: rest).all Char.isDigit then '-' :: 'C' :: c :: rest else argument
    | _ => argument

/-- The text of which the lines are searched for, and the other arguments. -/
def grepText (o : Options) : Run (Option Chars × List Chars) := do
  let given ← (o.given.filter fun g => g.1 = 'e' || g.1 = 'f').mapM fun (letter, text) => do
    if letter = 'e' then return some text
    let found ← fromFile "grep" 2 text readAllInput
    return found.map fun cs => if cs.getLast? = some '\n' then cs.dropLast else cs
  match given, o.operands with
  | [], text :: paths => return (some text, paths)
  | [], [] => return (none, [])
  | given, paths => return ((given.mapM id).map (List.intercalate ['\n']), paths)

/-- Shows the lines of its input or files in which a regular expression fits. -/
def grepProgram (arguments : List Chars) : Run Unit :=
  withOptions "grep" grepOptions 2 (withContextOption arguments) fun o => do
    let (text, paths) ← grepText o
    match text.map (searchesOf o) with
    | none => setStatus 2
    | some (.error fault) => do
      writeError "grep" fault.message.toList
      setStatus 2
    | some (.ok searches) => do
      setStatus 0
      let isDeep := o.has 'r' || o.has 'R'
      let paths := if paths.isEmpty then if isDeep then [['.']] else [['-']] else paths
      let all ← if isDeep then do pure (← paths.mapM filesBelow).flatten else pure paths
      let isNamed := o.has 'H' || ((isDeep || 1 < all.length) && !o.has 'h')
      let counts ← all.mapM (grepInput o searches isNamed)
      let isFound := counts.any (0 < ·)
      if isFound && o.has 'q' then setStatus 0
      else if (← getThread).status = 0 && !isFound then setStatus 1

end Switchboard.Shell
