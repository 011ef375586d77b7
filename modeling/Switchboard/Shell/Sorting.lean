import Switchboard.Shell.Streams

/-!
# Lines in order

The programs that put lines in order, and those that expect them in order. The order of two lines is
that of their keys; lines whose keys are alike are in the order of their bytes, unless they are to
stay as they come.
-/

namespace Switchboard.Shell

open Number (Binary64)

/-! ### Orders of texts -/

/-- Whether a text comes before another one or is the same. -/
def comesFirst : Chars → Chars → Bool
  | [], _ => true
  | _ :: _, [] => false
  | a :: as, b :: bs => if a = b then comesFirst as bs else a.toNat < b.toNat

/-- The order of texts by their bytes. -/
def byteOrder (a b : Chars) : Ordering :=
  if a = b then .eq else if comesFirst a b then .lt else .gt

def isBlank (c : Char) : Bool := c = ' ' || c = '\t'

/-- A number as it stands at the front of a text: whether it is below zero, its whole part, and the
digits of its fraction without zeros at the end. -/
structure PlainNumber where
  isNegative : Bool
  whole : Nat
  fraction : Chars

/-- The number at the front of a text, which is zero if there is none, and what follows it. -/
def PlainNumber.read (text : Chars) : PlainNumber × Chars :=
  let (isNegative, text) := match text with
    | '-' :: rest => (true, rest)
    | text => (false, text)
  let (whole, rest) := text.span Char.isDigit
  let (fraction, rest) := match rest with
    | '.' :: rest => rest.span Char.isDigit
    | rest => ([], rest)
  let fraction := (fraction.reverse.dropWhile (· = '0')).reverse
  let isZero := baseValue 10 whole = 0 && fraction.isEmpty
  (⟨isNegative && !isZero, baseValue 10 whole, fraction⟩, rest)

def PlainNumber.isZero (n : PlainNumber) : Bool := n.whole = 0 && n.fraction.isEmpty

def PlainNumber.order (a b : PlainNumber) : Ordering :=
  let sizes := (compare a.whole b.whole).then (byteOrder a.fraction b.fraction)
  match a.isNegative, b.isNegative with
  | false, false => sizes
  | true, true => sizes.swap
  | true, false => .lt
  | false, true => .gt

/-- How far a unit of thousands lies from one, below zero for a number below zero. -/
def unitPower (text : Chars) : Int :=
  let (number, rest) := PlainNumber.read text
  if number.isZero then 0
  else
    let unit := rest.headD ' '
    let place : Nat := if unit = 'k' then 1
      else match "KMGTPEZYRQ".toList.idxOf? unit with
        | some i => i + 1
        | none => 0
    if number.isNegative then -(place : Int) else place

/-- The order of numbers with units. -/
def unitOrder (a b : Chars) : Ordering :=
  (compare (unitPower a) (unitPower b)).then
    ((PlainNumber.read a).1.order (PlainNumber.read b).1)

/-- The months by their first three letters. -/
def monthNames : List String :=
  ["JAN", "FEB", "MAR", "APR", "MAY", "JUN", "JUL", "AUG", "SEP", "OCT", "NOV", "DEC"]

/-- The number of the month at the front of a text, zero if there is none. -/
def monthAt (text : Chars) : Nat :=
  let name := String.ofList ((text.take 3).map Char.toUpper)
  match monthNames.idxOf? name with
  | some i => i + 1
  | none => 0

/-- The order of numbers in binary form. -/
def binaryOrder (a b : Binary64) : Ordering :=
  let rank : Binary64 → Int
    | .nan => 0
    | .infinite true => 1
    | .finite .. => 2
    | .infinite false => 3
  match a, b with
  | .finite negative m e, .finite negative' m' e' =>
    let least := min e e'
    let scaled (negative : Bool) (m : Nat) (e : Int) : Int :=
      let size : Int := m * Nat.pow 2 (e - least).toNat
      if negative then -size else size
    compare (scaled negative m e) (scaled negative' m' e')
  | a, b => compare (rank a) (rank b)

/-- The order of numbers with exponents; what is no number comes first. -/
def floatOrder (a b : Chars) : Ordering :=
  let value (text : Chars) : Option Binary64 := floatAtFront? (min (text.length + 1) 400) text
  match value a, value b with
  | some x, some y => binaryOrder x y
  | none, some _ => .lt
  | some _, none => .gt
  | none, none => .eq

/-! ### Versions -/

/-- How a character that is no digit stands in a version; the end of the text comes after a tilde
and before all others. -/
def versionRank : Option Char → Int
  | none => -1
  | some c =>
    if c.isDigit then 0
    else if c.isAlpha then c.toNat
    else if c = '~' then -2
    else c.toNat + 256

/-- The order of fronts without digits, with what follows them, compared in at most `n` steps. -/
def frontOrder : (n : Nat) → Chars → Chars → Ordering × Chars × Chars
  | 0, a, b => (.eq, a, b)
  | n + 1, a, b =>
    let isOver : Chars → Bool
      | [] => true
      | c :: _ => c.isDigit
    if isOver a && isOver b then (.eq, a, b)
    else
      match compare (versionRank a.head?) (versionRank b.head?) with
      | .eq => frontOrder n a.tail b.tail
      | order => (order, a, b)

/-- The order of versions: fronts without digits and numbers by turns, in at most `n` turns. -/
def partsOrder : (n : Nat) → Chars → Chars → Ordering
  | 0, _, _ => .eq
  | n + 1, a, b =>
    if a.isEmpty && b.isEmpty then .eq
    else
      let (order, a, b) := frontOrder (a.length + b.length) a b
      let (digits, rest) := a.span Char.isDigit
      let (digits', rest') := b.span Char.isDigit
      (order.then (compare (baseValue 10 digits) (baseValue 10 digits'))).then
        (partsOrder n rest rest')

/-- How many characters of the name of a file come before its endings, such as `.tar.gz`. -/
def stemLength (text : Chars) : Nat :=
  let isWord (c : Char) : Bool := c.isAlphanum || c = '~'
  let starts (c : Char) : Bool := c.isAlpha || c = '~'
  -- The endings are those after the last place from which only endings follow.
  let isEnding (part : Chars) : Bool :=
    (part.head?.map starts).getD false && part.all isWord
  let parts := text.splitOn '.'
  let endings := (parts.drop 1).reverse.takeWhile isEnding
  let length := text.length - (endings.map fun e => e.length + 1).foldl (· + ·) 0
  if length = 0 && !text.isEmpty then (parts.getD 1 []).length + 1 else length

def versionOrder (a b : Chars) : Ordering :=
  if a = b then .eq
  else
    let first (text : Chars) : Nat :=
      if text.isEmpty then 0 else if text = ['.'] then 1 else if text = ['.', '.'] then 2
      else if text.head? = some '.' then 3 else 4
    let whole (a b : Chars) : Ordering := partsOrder (a.length + b.length + 1) a b
    (compare (first a) (first b)).then
      ((whole (a.take (stemLength a)) (b.take (stemLength b))).then (whole a b))

/-! ### Keys -/

/-- What is looked at in a line, and how. -/
structure SortKey where
  /-- The place where it begins: fields and characters that are passed over. -/
  first : Nat × Nat
  /-- The place behind it; without characters, the whole field is in it. -/
  last : Option (Nat × Nat)
  /-- The letters that say how it is compared, and whether blanks are passed over at each end. -/
  letters : Chars
  skipsFirst : Bool
  skipsLast : Bool

namespace SortKey

/-- A text behind a number of its fields. -/
def behindFields (mark : Option Char) : (fields : Nat) → Chars → Chars
  | 0, text => text
  | n + 1, text =>
    match mark with
    | some c => behindFields mark n (text.dropWhile (· ≠ c)).tail
    | none => behindFields mark n ((text.dropWhile isBlank).dropWhile fun c => !isBlank c)

/-- How many characters of a line come before a place at which a key ends. -/
def endIn (mark : Option Char) (skips : Bool) (fields chars : Nat) (text : Chars) : Nat :=
  if chars = 0 then
    let rest := behindFields mark fields text
    match mark with
    | some c => text.length - rest.length + (rest.takeWhile (· ≠ c)).length
    | none => text.length - (behindFields mark (fields + 1) text).length
  else
    let rest := behindFields mark fields text
    let rest := if skips then rest.dropWhile isBlank else rest
    min text.length (text.length - rest.length + chars)

/-- The part of a line that a key looks at. -/
def ofLine (k : SortKey) (mark : Option Char) (text : Chars) : Chars :=
  let rest := behindFields mark k.first.1 text
  let rest := (if k.skipsFirst then rest.dropWhile isBlank else rest).drop k.first.2
  match k.last with
  | none => rest
  | some (fields, chars) =>
    rest.take (endIn mark k.skipsLast fields chars text - (text.length - rest.length))

/-- The order of two texts under a key. -/
def order (k : SortKey) (a b : Chars) : Ordering :=
  let has (c : Char) : Bool := k.letters.contains c
  let seen (text : Chars) : Chars :=
    let kept := text.filter fun c =>
      (!has 'd' || c.isAlphanum || isBlank c) && (!has 'i' || (' ' ≤ c && c ≤ '~'))
    if has 'f' then kept.map Char.toUpper else kept
  let a := seen a
  let b := seen b
  let front (text : Chars) : Chars := text.dropWhile isBlank
  let found :=
    if has 'n' then (PlainNumber.read (front a)).1.order (PlainNumber.read (front b)).1
    else if has 'h' then unitOrder (front a) (front b)
    else if has 'g' then floatOrder (front a) (front b)
    else if has 'M' then compare (monthAt (front a)) (monthAt (front b))
    else if has 'V' then versionOrder a b
    else byteOrder a b
  if has 'r' then found.swap else found

/-- A place with letters after it, such as `2.3n`. -/
def readPlace? (text : Chars) : Option (Nat × Option Nat × Chars) := do
  let (field, rest) := text.span Char.isDigit
  let (char, rest) := match rest with
    | '.' :: rest =>
      let (digits, rest) := rest.span Char.isDigit
      (some digits, rest)
    | rest => (none, rest)
  if field.isEmpty || char = some [] || !rest.all ("bdfgiMhnrRV".toList.contains ·) then none
  else some (baseValue 10 field, char.map (baseValue 10), rest)

/-- The key that an argument describes; the letters of the program hold for it if it has none. -/
def parse? (whole : Chars) (text : Chars) : Option SortKey := do
  let (front, back) := text.span (· ≠ ',')
  let (field, char, letters) ← readPlace? front
  let last ← match back with
    | _ :: back => (readPlace? back).map some
    | [] => some none
  let lastLetters := (last.map fun l => l.2.2).getD []
  if field = 0 || char = some 0 || (last.map Prod.fst) = some 0 then none
  else
    let own := letters ++ lastLetters
    some {
      first := (field - 1, (char.getD 1) - 1)
      last := last.map fun (field, char, _) => (field - 1, char.getD 0)
      letters := if own.isEmpty then whole else own
      skipsFirst := if own.isEmpty then whole.contains 'b' else letters.contains 'b'
      skipsLast := if own.isEmpty then whole.contains 'b' else lastLetters.contains 'b' }

/-- The key for whole lines. -/
def ofLetters (letters : Chars) : SortKey :=
  { first := (0, 0), last := none, letters, skipsFirst := letters.contains 'b', skipsLast := false }

end SortKey

/-! ### Sorting -/

/-- How lines are sorted. -/
structure SortRule where
  keys : List SortKey
  mark : Option Char
  isUnique : Bool
  isStable : Bool
  isReversed : Bool

namespace SortRule

/-- The order of two lines by their keys. -/
def keyOrder (r : SortRule) (a b : Chars) : Ordering :=
  r.keys.foldl (fun found k =>
    found.then (k.order (k.ofLine r.mark a) (k.ofLine r.mark b))) .eq

/-- The order of two lines. -/
def order (r : SortRule) (a b : Chars) : Ordering :=
  let byKeys := r.keyOrder a b
  if !r.keys.isEmpty && (r.isUnique || r.isStable) then byKeys
  else
    let bytes := byteOrder a b
    byKeys.then (if r.isReversed then bytes.swap else bytes)

/-- Whether two lines may follow each other. -/
def isOrdered (r : SortRule) (a b : Chars) : Bool := r.order a b != .gt

/-- Lines in order; of lines that are alike, one is kept if the rule says so. -/
def sort (r : SortRule) (lines : List Chars) : List Chars :=
  let sorted := lines.mergeSort r.isOrdered
  if r.isUnique then
    (sorted.splitBy fun a b => r.order a b == .eq).filterMap List.head?
  else sorted

/-- The first line that is out of order, with its number. -/
def firstUnordered? (r : SortRule) (lines : List Chars) : Option (Nat × Chars) :=
  ((lines.zip lines.tail).zipIdx.find? fun ((a, b), _) =>
    !r.isOrdered a b || r.isUnique && r.order a b == .eq).map fun ((_, b), i) => (i + 2, b)

end SortRule

def sortOptions : OptionTable where
  plain := "bcCdfghiMmnrRsuVz".toList
  valued := ['k', 'o', 'S', 't', 'T']
  long := [("numeric-sort", 'n'), ("reverse", 'r'), ("unique", 'u'), ("ignore-case", 'f'),
    ("key", 'k'), ("field-separator", 't'), ("stable", 's'), ("output", 'o'), ("check", 'c'),
    ("general-numeric-sort", 'g'), ("human-numeric-sort", 'h'), ("month-sort", 'M'),
    ("version-sort", 'V'), ("dictionary-order", 'd'), ("ignore-leading-blanks", 'b'),
    ("ignore-nonprinting", 'i'), ("merge", 'm'), ("zero-terminated", 'z')]

/-- The rule that options ask for. -/
def SortRule.ofOptions? (o : Options) : Option SortRule := do
  let whole := "bdfgiMhnrRV".toList.filter o.has
  let keys ← (o.values 'k').mapM (SortKey.parse? whole)
  let mark ← match o.value? 't' with
    | none => some none
    | some [c] => some (some c)
    | some ['\\', '0'] => some (some '\x00')
    | some _ => none
  let kinds := (whole.filter "ghMnRV".toList.contains).length
  if 1 < kinds then none
  else
    let keys :=
      if keys.isEmpty && whole.any (· ≠ 'r') then [SortKey.ofLetters whole] else keys
    some ⟨keys, mark, o.has 'u', o.has 's', o.has 'r'⟩

def sortProgram (arguments : List Chars) : Run Unit :=
  withOptions "sort" sortOptions 2 arguments fun o => do
    match SortRule.ofOptions? o with
    | none => setStatus 2
    | some rule => do
      setStatus 0
      let border := if o.has 'z' then '\x00' else '\n'
      let paths := inputsOf o.operands
      let found ← paths.mapM fun path => fromFile "sort" 2 path readAllInput
      let linesOf (text : Chars) : List Chars :=
        let pieces := text.splitOn border
        if pieces.getLast? = some [] then pieces.dropLast else pieces
      -- A file that cannot be read is the end.
      if found.all Option.isSome then
        let lines := (found.filterMap id).flatMap linesOf
        if o.has 'c' || o.has 'C' then
          match rule.firstUnordered? lines with
          | none => return ()
          | some (number, unordered) => do
            if o.has 'c' then
              writeError "sort" ((paths.headD []) ++ ":".toList ++ decimalChars number ++
                ": disorder: ".toList ++ unordered)
            setStatus 1
        else
          let shown := (rule.sort lines).flatMap (· ++ [border])
          match o.value? 'o' with
          | none => writeOut shown
          | some path =>
            match ← openWriting (.replace true) path with
            | .ok channel => writeThrough channel shown
            | .error _ => setStatus 2

/-! ### Lines that follow their like -/

def uniqOptions : OptionTable where
  plain := ['c', 'd', 'D', 'u', 'i', 'z']
  valued := ['f', 's', 'w']
  long := [("count", 'c'), ("repeated", 'd'), ("all-repeated", 'D'), ("unique", 'u'),
    ("ignore-case", 'i'), ("skip-fields", 'f'), ("skip-chars", 's'), ("check-chars", 'w'),
    ("zero-terminated", 'z')]

def uniqProgram (arguments : List Chars) : Run Unit :=
  withOptions "uniq" uniqOptions 1 arguments fun o => do
    setStatus 0
    let count (letter : Char) : Option Nat := (o.value? letter).map natAtFront
    let part (text : Chars) : Chars :=
      let rest := (SortKey.behindFields none ((count 'f').getD 0) text).drop ((count 's').getD 0)
      let seen := match count 'w' with
        | some width => rest.take width
        | none => rest
      if o.has 'i' then seen.map Char.toLower else seen
    match ← fromFile "uniq" 1 (o.operands.headD ['-']) readAllInput with
    | none => return ()
    | some text => do
      let groups := (textLines text).splitBy fun a b => part a == part b
      let kept := groups.filter fun g =>
        (!(o.has 'd' || o.has 'D') || 1 < g.length) && (!o.has 'u' || g.length = 1)
      let shown := if o.has 'D' then kept.flatten
        else kept.map fun g =>
          (if o.has 'c' then alignRight 7 (decimalChars g.length) ++ [' '] else []) ++ g.headD []
      match o.operands[1]? with
      | none => writeOut (joinLines shown)
      | some path =>
        match ← openWriting (.replace true) path with
        | .ok channel => writeThrough channel (joinLines shown)
        | .error _ => setStatus 1

/-! ### Common lines -/

/-- The lines of two texts in order, each with the column in which it stands: the first for lines of
the first text only, the second for those of the second one, the third for those of both. -/
def mergeLines : (n : Nat) → List Chars → List Chars → List (Nat × Chars)
  | 0, _, _ => []
  | _, [], others => others.map fun l => (1, l)
  | _, lines, [] => lines.map fun l => (0, l)
  | n + 1, a :: lines, b :: others =>
    if a = b then (2, a) :: mergeLines n lines others
    else if comesFirst a b then (0, a) :: mergeLines n lines (b :: others)
    else (1, b) :: mergeLines n (a :: lines) others

def commProgram (arguments : List Chars) : Run Unit :=
  withOptions "comm" { plain := ['1', '2', '3', 'z', 'k', 'K', 't'], valued := ['d'], long :=
    [("output-delimiter", 'd'), ("check-order", 'k'), ("nocheck-order", 'K'), ("total", 't')] } 1
    arguments fun o => do
    match o.operands with
    | [first, second] => do
      setStatus 0
      match ← fromFile "comm" 1 first readAllInput, ← fromFile "comm" 1 second readAllInput with
      | some a, some b => do
        let a := textLines a
        let b := textLines b
        let merged := mergeLines (a.length + b.length + 1) a b
        let mark := (o.value? 'd').getD ['\t']
        let isShown (column : Nat) : Bool := !o.has (['1', '2', '3'].getD column '1')
        let before (column : Nat) : Chars :=
          ((List.range column).filter isShown).flatMap fun _ => mark
        let shown := merged.filter fun (column, _) => isShown column
        writeOut (joinLines (shown.map fun (column, l) => before column ++ l))
        if o.has 't' then
          let counts := [0, 1, 2].map fun column : Nat =>
            decimalChars (merged.countP fun (c, _) => c = column)
          writeOut (List.intercalate mark (counts ++ ["total".toList]) ++ ['\n'])
        let isSorted (lines : List Chars) : Bool :=
          (lines.zip lines.tail).all fun (x, y) => comesFirst x y
        if !o.has 'K' && merged.any (fun (column, _) => column ≠ 2) &&
            !(isSorted a && isSorted b) then setStatus 1
      | _, _ => return ()
    | _ => setStatus 1

end Switchboard.Shell
