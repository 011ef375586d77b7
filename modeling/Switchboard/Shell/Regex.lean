import Switchboard.Shell.Format
import Switchboard.Shell.Pattern

/-!
# Regular expressions

Regular expressions are written in dialects, which agree on what an expression means: of all places
where it fits, the first is found, and there the longest text. How far an expression gets from a
place is a set of places (`Search.ends`), so that looking for it takes no more than that many steps
for each of its items; only the groups are found by trying.
-/

namespace Switchboard.Shell

/-! ### Expressions -/

/-- A place between two characters of a certain kind. -/
inductive Border where
  | wordStart
  | wordEnd
  | wordEdge
  | noWordEdge
  deriving DecidableEq, Repr

/-- A part of a regular expression. -/
inductive RegexItem where
  | char (c : Char)
  | any
  | set (s : CharSet)
  | start
  | finish
  | border (b : Border)
  | group (index : Nat) (alternatives : List (List RegexItem))
  | back (index : Nat)
  | repeat_ (item : RegexItem) (least : Nat) (most : Option Nat)

instance : Inhabited RegexItem := ⟨.any⟩

/-- What is searched for. -/
structure Search where
  alternatives : List (List RegexItem)
  /-- How many groups there are. -/
  groups : Nat
  /-- Whether some item is what a group has found. -/
  refersBack : Bool
  /-- Whether letters fit their other case too. -/
  isFolded : Bool

/-! ### Dialects -/

/-- What is wrong with a regular expression. -/
inductive RegexFault where
  | unmatchedOpening
  | unmatchedClosing
  | unmatchedBracket
  | unmatchedBrace
  | badBounds
  /-- Something that is no bounds in the place of some. -/
  | foreignBounds
  /-- A repetition of nothing. -/
  | nothingRepeated
  | badRange
  /-- A reference to a group that has not ended before it. -/
  | noGroup
  | trailingBackslash
  | unknownClass
  /-- A name in brackets that is not one character. -/
  | notOneCharacter
  | tooBig
  /-- Brackets with nothing in them. -/
  | emptyBracket
  /-- A class of characters that is not in brackets of its own. -/
  | bareClass
  deriving DecidableEq, Repr

/-- What is wrong, in words. -/
def RegexFault.message : RegexFault → String
  | unmatchedOpening => "Unmatched ( or \\("
  | unmatchedClosing => "Unmatched ) or \\)"
  | unmatchedBracket => "Unmatched [, [^, [:, [., or [="
  | unmatchedBrace => "Unmatched \\\x7b"
  | badBounds => "Invalid content of \\\x7b\\\x7d"
  | foreignBounds => "Invalid content of \\\x7b\\\x7d"
  | nothingRepeated => "Invalid preceding regular expression"
  | badRange => "Invalid range end"
  | noGroup => "Invalid back reference"
  | trailingBackslash => "Trailing backslash"
  | unknownClass => "Invalid character class name"
  | notOneCharacter => "Invalid collation character"
  | tooBig => "Regular expression too big"
  | emptyBracket => "Invalid regular expression"
  | bareClass => "character class syntax is [[:space:]], not [:space:]"

/-- A way of writing regular expressions. -/
structure Dialect where
  /-- Whether the marks of groups, alternatives and repetitions stand without a backslash. -/
  isExtended : Bool
  /-- Whether marks in places where they mean nothing are wrong, and do not stand for themselves. -/
  isStrict : Bool
  /-- Whether a range may hold nothing. -/
  allowsEmptyRanges : Bool
  /-- Whether a set that looks like the name of a class is one. -/
  allowsBareClasses : Bool
  /-- The items that escapes of one letter stand for. -/
  items : Char → Option RegexItem
  /-- The character that an escape stands for, after its backslash. -/
  escape : Chars → Option (Char × Chars)
  /-- Whether a backslash takes away the meaning of a character in brackets. -/
  quotesInSets : Bool

/-- What stands at the front of a regular expression. -/
inductive RegexMark where
  | opening
  | closing
  | bar
  | star
  | plus
  | query
  | brace
  | start
  | finish
  | bracket
  | item (i : RegexItem)

/-- The characters of words. -/
def wordSet (negated : Bool) : CharSet := ⟨negated, [('_', '_')], ["alnum".toList]⟩

def spaceSet (negated : Bool) : CharSet := ⟨negated, [], ["space".toList]⟩

/-- What an escape of words stands for. -/
def wordItem? : Char → Option RegexItem
  | 'w' => some (.set (wordSet false))
  | 'W' => some (.set (wordSet true))
  | 's' => some (.set (spaceSet false))
  | 'S' => some (.set (spaceSet true))
  | 'b' => some (.border .wordEdge)
  | 'B' => some (.border .noWordEdge)
  | '<' => some (.border .wordStart)
  | '>' => some (.border .wordEnd)
  | '\x60' => some .start
  | '\'' => some .finish
  | _ => none

namespace Dialect

/-- The marks that basic expressions write with a backslash. -/
def movable : Char → Option RegexMark
  | '(' => some .opening
  | ')' => some .closing
  | '|' => some .bar
  | '+' => some .plus
  | '?' => some .query
  | '\x7b' => some .brace
  | _ => none

/-- What stands at the front of a text that is not empty; there is no result for a lone backslash.
-/
def readMark (d : Dialect) : Chars → Option (RegexMark × Chars)
  | [] => none
  | ['\\'] => none
  | '\\' :: c :: rest =>
    match if d.isExtended then none else movable c, d.items c, d.escape (c :: rest) with
    | some mark, _, _ => some (mark, rest)
    | none, some item, _ => some (.item item, rest)
    | none, none, some (c, rest) => some (.item (.char c), rest)
    | none, none, none =>
      if c.isDigit && c ≠ '0' then some (.item (.back (c.toNat - '0'.toNat)), rest)
      else some (.item (.char c), rest)
  | '*' :: rest => some (.star, rest)
  | '.' :: rest => some (.item .any, rest)
  | '^' :: rest => some (.start, rest)
  | '$' :: rest => some (.finish, rest)
  | '[' :: rest => some (.bracket, rest)
  | c :: rest =>
    match if d.isExtended then movable c else none with
    | some mark => some (mark, rest)
    | none => some (.item (.char c), rest)

/-- Whether a text begins with a mark after which an expression may have its end. -/
def endsHere (d : Dialect) (cs : Chars) : Bool :=
  match d.readMark cs with
  | none => cs.isEmpty
  | some (.closing, _) => true
  | some (.bar, _) => true
  | _ => false

/-- No repetition has a greater bound. -/
def boundLimit : Nat := 32767

/-- A text up to a mark, with what follows the mark. -/
def splitAtMark (mark : Chars) : Chars → Option (Chars × Chars)
  | [] => none
  | c :: rest =>
    if mark.isPrefixOf (c :: rest) then some ([], (c :: rest).drop mark.length)
    else (splitAtMark mark rest).map fun (front, rest) => (c :: front, rest)

/-- The bounds of a repetition: a number, or two with a comma. -/
def readBounds (d : Dialect) (cs : Chars) : Except RegexFault ((Nat × Option Nat) × Chars) := do
  match splitAtMark (if d.isExtended then ['\x7d'] else ['\\', '\x7d']) cs with
  | none => throw .unmatchedBrace
  | some (content, rest) =>
    let (low, behind) := content.span Char.isDigit
    let least := baseValue 10 low
    let most : Option Nat ← match behind with
      | [] => .ok (some least)
      | [','] => .ok none
      | ',' :: high =>
        if high.all Char.isDigit then .ok (some (baseValue 10 high)) else .error .foreignBounds
      | _ => .error .foreignBounds
    if content.isEmpty || (most.any fun m => decide (m < least)) then throw .badBounds
    if boundLimit < most.getD least then throw .tooBig
    return ((least, most), rest)

/-- A name in brackets up to its closing mark. -/
def readBracketName (mark : Char) (cs : Chars) : Except RegexFault (Chars × Chars) :=
  match splitAtMark [mark, ']'] cs with
  | some found => .ok found
  | none => .error .unmatchedBracket

/-- A character in brackets. -/
def readMember (d : Dialect) : Chars → Except RegexFault (Char × Chars)
  | [] => .error .unmatchedBracket
  | '[' :: '.' :: rest => readNamed '.' rest
  | '[' :: '=' :: rest => readNamed '=' rest
  | '\\' :: rest =>
    match d.escape rest, d.quotesInSets, rest with
    | some found, _, _ => .ok found
    | none, true, c :: rest => .ok (c, rest)
    | none, _, rest => .ok ('\\', rest)
  | c :: rest => .ok (c, rest)
where
  /-- A character by its name. -/
  readNamed (mark : Char) (cs : Chars) : Except RegexFault (Char × Chars) := do
    match ← readBracketName mark cs with
    | ([c], rest) => return (c, rest)
    | _ => throw .notOneCharacter

/-- The members of a set up to its closing bracket, which counts as a member if it comes first. -/
def readMembers (d : Dialect) : (fuel : Nat) → (first : Bool) → CharSet → Chars →
    Except RegexFault (CharSet × Chars)
  | 0, _, _, _ => .error .unmatchedBracket
  | n + 1, first, s, cs =>
    match cs with
    | '[' :: ':' :: rest => do
      let (name, rest) ← readBracketName ':' rest
      if !classNames.contains (String.ofList name) then throw .unknownClass
      d.readMembers n false { s with classes := name :: s.classes } rest
    | cs =>
      if cs.head? = some ']' && !first then .ok (s, cs.tail)
      else if cs.head? = some '-' && !first && cs.tail.head?.any (· ≠ ']') then
        .error .badRange
      else do
        let (low, rest) ← d.readMember cs
        let (high, rest) ← match rest with
          | '-' :: rest =>
            if rest.head? = some ']' then pure (low, '-' :: rest)
            else if "[:".toList.isPrefixOf rest then throw .badRange
            else d.readMember rest
          | rest => pure (low, rest)
        if high < low && !d.allowsEmptyRanges then throw .badRange
        d.readMembers n false { s with ranges := (low, high) :: s.ranges } rest

/-- Whether the members of a set look like the name of a class. -/
def isBareClass (s : CharSet) (members : Chars) : Bool :=
  members.head? = some ':' && members.getLast? = some ':' && members.any (· ≠ ':') &&
    s.classes.isEmpty && s.ranges.all fun (low, high) => low = high

/-- The set after an opening bracket. -/
def readSet (d : Dialect) (cs : Chars) : Except RegexFault (CharSet × Chars) := do
  let (negated, cs) := match cs with
    | '^' :: rest => (true, rest)
    | cs => (false, cs)
  if cs.isEmpty then throw .emptyBracket
  let (s, rest) ← d.readMembers (cs.length + 1) true ⟨negated, [], []⟩ cs
  if !d.allowsBareClasses && isBareClass s (cs.take (cs.length - rest.length - 1)) then
    throw .bareClass
  return (s, rest)

/-- What was read of a regular expression: how many groups have begun, those that an item may refer
to, and whether some item refers to one. An alternative may not refer to the groups of another. -/
structure Progress where
  groups : Nat
  /-- The groups that have ended, those of other alternatives left out. -/
  ended : List Nat
  /-- Those that had ended before the first alternative. -/
  before : List Nat
  /-- Those of the alternatives before this one. -/
  elsewhere : List Nat
  refersBack : Bool

namespace Progress

/-- Begins another alternative. -/
def branch (p : Progress) : Progress :=
  { p with ended := p.before, elsewhere := p.elsewhere ++ p.ended }

/-- Begins the first alternative of a group. -/
def enter (p : Progress) : Progress :=
  { p with groups := p.groups + 1, before := p.ended, elsewhere := [] }

/-- Goes on behind a group, of which so much was read. -/
def leave (p : Progress) (index : Nat) (inner : Progress) : Progress :=
  { inner with
    ended := index :: inner.ended ++ inner.elsewhere
    before := p.before
    elsewhere := p.elsewhere }

end Progress

/-- The last of some items, the last of which comes first, repeated. -/
def repeatLast (least : Nat) (most : Option Nat) : List RegexItem → List RegexItem
  | [] => []
  | item :: items => .repeat_ item least most :: items

/-- Whether there is nothing behind some items, the last of which comes first, that a repetition
could repeat. -/
def isFirst : List RegexItem → Bool
  | [] => true
  | .start :: _ => true
  | .finish :: _ => true
  | .border _ :: _ => true
  | _ => false

/-- Whether the last of some items is repeated already. -/
def endsRepeated : List RegexItem → Bool
  | .repeat_ _ _ _ :: _ => true
  | _ => false

/-- The items with the last one repeated. A repetition of nothing stands for itself, or for
nothing, or is wrong. -/
def repeatItems (d : Dialect) (mark : Char) (least : Nat) (most : Option Nat)
    (items : List RegexItem) : Except RegexFault (List RegexItem) :=
  if isFirst items then
    if d.isStrict && (d.isExtended || mark = '\x7b') then .error .nothingRepeated
    else .ok (if d.isExtended then items else .char mark :: items)
  else if d.isStrict && !d.isExtended && (mark = '*' || mark = '\x7b') && endsRepeated items then
    .error .nothingRepeated
  else .ok (repeatLast least most items)

/-- The alternatives up to the end of a group or of the text. Those before and the items of this
one come last one first. -/
def read (d : Dialect) (isInner : Bool) : (fuel : Nat) → Progress →
    (done : List (List RegexItem)) → List RegexItem → Chars →
    Except RegexFault (List (List RegexItem) × Progress × Chars)
  | 0, _, _, _, _ => .error .tooBig
  | n + 1, p, done, items, cs =>
    let add (item : RegexItem) (rest : Chars) := d.read isInner n p done (item :: items) rest
    let finish (rest : Chars) := .ok ((items.reverse :: done).reverse, p, rest)
    let repeated (mark : Char) (least : Nat) (most : Option Nat) (rest : Chars) := do
      d.read isInner n p done (← d.repeatItems mark least most items) rest
    match d.readMark cs with
    | none => if cs.isEmpty then finish [] else .error .trailingBackslash
    | some (.closing, rest) =>
      if isInner then finish cs
      else if d.isExtended && !d.isStrict then add (.char ')') rest
      else .error .unmatchedClosing
    | some (.bar, rest) => d.read isInner n p.branch (items.reverse :: done) [] rest
    | some (.opening, rest) => do
      let index := p.groups + 1
      let (alternatives, inner, rest) ← d.read true n p.enter [] [] rest
      match d.readMark rest with
      | some (.closing, rest) =>
        d.read isInner n (p.leave index inner) done (.group index alternatives :: items) rest
      | _ => throw .unmatchedOpening
    | some (.star, rest) => repeated '*' 0 none rest
    | some (.plus, rest) => repeated '+' 1 none rest
    | some (.query, rest) => repeated '?' 0 (some 1) rest
    | some (.brace, rest) =>
      if isFirst items && !d.isStrict && !d.isExtended then add (.char '\x7b') rest
      else match d.readBounds rest with
        | .ok ((least, most), behind) => repeated '\x7b' least most behind
        | .error fault =>
          let isText := fault = .unmatchedBrace || fault = .foreignBounds
          if d.isStrict && isFirst items then .error .nothingRepeated
          else if d.isExtended && !d.isStrict && isText then add (.char '\x7b') rest
          else .error fault
    | some (.start, rest) =>
      if d.isExtended || items.isEmpty then add .start rest else add (.char '^') rest
    | some (.finish, rest) =>
      if d.isExtended || d.endsHere rest then add .finish rest else add (.char '$') rest
    | some (.bracket, rest) => do
      let (s, rest) ← d.readSet rest
      add (.set s) rest
    | some (.item (.back i), rest) =>
      if p.ended.contains i then
        d.read isInner n { p with refersBack := true } done (.back i :: items) rest
      else .error .noGroup
    | some (.item i, rest) => add i rest

/-- The regular expression that a text is. -/
def parse (d : Dialect) (isFolded : Bool) (text : Chars) : Except RegexFault Search := do
  let (alternatives, p, _) ← d.read false (text.length + 1) ⟨0, [], [], [], false⟩ [] [] text
  return ⟨alternatives, p.groups, p.refersBack, isFolded⟩

end Dialect

/-! ### Fitting -/

/-- Whether the character before a place and the one behind it are of words. -/
def wordsAround (text : Array Char) (place : Nat) : Bool × Bool :=
  let isWord (c : Option Char) := (c.map (wordSet false).has).getD false
  (place ≠ 0 && isWord text[place - 1]?, isWord text[place]?)

/-- Whether a place is a border of a kind. -/
def Border.isAt (b : Border) (text : Array Char) (place : Nat) : Bool :=
  match b, wordsAround text place with
  | .wordStart, (before, behind) => !before && behind
  | .wordEnd, (before, behind) => before && !behind
  | .wordEdge, (before, behind) => before != behind
  | .noWordEdge, (before, behind) => before == behind

/-- Whether a character is in a set, or its other case is. -/
def CharSet.hasFolded (s : CharSet) (isFolded : Bool) (c : Char) : Bool :=
  let plain := { s with negated := false }
  (plain.has c || (isFolded && (plain.has c.toLower || plain.has c.toUpper))) != s.negated

/-- Whether an item fits a character; there is no answer for an item that is not one character. -/
def RegexItem.fitsChar? (isFolded : Bool) : RegexItem → Option (Char → Bool)
  | .char a => some fun c => a = c || (isFolded && a.toLower = c.toLower)
  | .any => some fun _ => true
  | .set s => some (s.hasFolded isFolded)
  | _ => none

/-- Whether an item that is no text fits a place; there is no answer for other items. -/
def RegexItem.fitsPlace? (text : Array Char) : RegexItem → Option (Nat → Bool)
  | .start => some (· = 0)
  | .finish => some (· = text.size)
  | .border b => some (b.isAt text)
  | _ => none

/-- The places that are reached in at most `n` steps more. -/
def spread (step : List Nat → List Nat) : (n : Nat) → (reached fresh : List Nat) → List Nat
  | 0, reached, _ => reached
  | n + 1, reached, fresh =>
    let more := (step fresh).filter fun place => !reached.contains place
    if more.isEmpty then reached else spread step n (reached ++ more) more

/-- The places that are reached in exactly `n` steps. -/
def advance (step : List Nat → List Nat) : (n : Nat) → List Nat → List Nat
  | 0, places => places
  | n + 1, places => if places.isEmpty then [] else advance step n (step places)

/-- The places up to which items fit that begin at one of some places. -/
def reach (isFolded : Bool) (text : Array Char) : (fuel : Nat) → List RegexItem → List Nat →
    List Nat
  | 0, _, _ => []
  | _, [], places => places
  | n + 1, item :: others, places =>
    let after : List Nat :=
      match item.fitsChar? isFolded, item.fitsPlace? text, item with
      | some test, _, _ =>
        (places.filter fun place => (text[place]?.map test).getD false).map (· + 1)
      | none, some test, _ => places.filter test
      | none, none, .group _ alternatives =>
        (alternatives.flatMap fun items => reach isFolded text n items places).eraseDups
      | none, none, .repeat_ item least most =>
        let step := reach isFolded text n [item]
        let reached := advance step least places
        spread step ((most.map (· - least)).getD (text.size + 1)) reached reached
      | none, none, _ => []
    if after.isEmpty then [] else reach isFolded text n others after

/-- Where a search stands: a place, and the groups that were found. -/
structure Standing where
  place : Nat
  groups : List (Nat × Chars)

def textBetween (text : Array Char) (first last : Nat) : Chars := (text.extract first last).toList

/-- Fits items from a place on, the longest repetition first, so that what follows fits too. -/
def fitItems (isFolded : Bool) (text : Array Char) : (fuel : Nat) → List RegexItem → Standing →
    (Standing → Option Standing) → Option Standing
  | 0, _, _, _ => none
  | _, [], m, k => k m
  | n + 1, item :: others, m, k =>
    match item.fitsChar? isFolded, item.fitsPlace? text, item with
    | some test, _, _ =>
      if (text[m.place]?.map test).getD false then
        fitItems isFolded text n others { m with place := m.place + 1 } k
      else none
    | none, some test, _ => if test m.place then fitItems isFolded text n others m k else none
    | none, none, .back i =>
      match m.groups.lookup i with
      | some found =>
        let last := m.place + found.length
        if textBetween text m.place last = found then
          fitItems isFolded text n others { m with place := last } k
        else none
      | none => none
    | none, none, .group i alternatives =>
      alternatives.findSome? fun inner =>
        fitItems isFolded text n inner m fun m' =>
          let found := textBetween text m.place m'.place
          fitItems isFolded text n others { m' with groups := (i, found) :: m'.groups } k
    | none, none, .repeat_ item least most =>
      let more := if most = some 0 then none
        else fitItems isFolded text n [item] m fun m' =>
          if m'.place = m.place then
            if least = 0 then none else fitItems isFolded text n others m' k
          else fitItems isFolded text n
            (.repeat_ item (least - 1) (most.map (· - 1)) :: others) m' k
      match more with
      | some found => some found
      | none => if least = 0 then fitItems isFolded text n others m k else none
    | none, none, _ => none

/-- What was found: where it begins and ends, and the texts of its groups. -/
structure Fit where
  first : Nat
  last : Nat
  groups : List (Nat × Chars)

namespace Search

/-- No expression has more items one behind or inside of the other. -/
def itemBound : Nat := 100000

/-- The places up to which a regular expression fits from a place on. -/
def ends (s : Search) (text : Array Char) (place : Nat) : List Nat :=
  s.alternatives.flatMap fun items => reach s.isFolded text itemBound items [place]

/-- What fits from a place on and is found by trying; it ends at the given place. -/
def fitTo (s : Search) (text : Array Char) (first : Nat) (last : Option Nat) : Option Fit :=
  let bound := 4 * (text.size + 4) * (text.size + 4) + itemBound
  let accept (m : Standing) : Option Standing :=
    if last.all (· = m.place) then some m else none
  let found := s.alternatives.findSome? fun items =>
    fitItems s.isFolded text bound items ⟨first, []⟩ accept
  found.map fun m => ⟨first, m.place, m.groups⟩

/-- The longest text that fits from a place on, of those whose ends are accepted. -/
def fitAt? (s : Search) (accept : Nat → Nat → Bool) (text : Array Char) (first : Nat) :
    Option Fit :=
  if s.refersBack then (s.fitTo text first none).filter fun fit => accept first fit.last
  else match (s.ends text first).filter (accept first) with
    | [] => none
    | place :: places =>
      let last := places.foldl max place
      if s.groups = 0 then some ⟨first, last, []⟩ else s.fitTo text first (some last)

/-- The first accepted text that fits in what lies behind a place, looked for at `n` places. -/
def findWithin (s : Search) (accept : Nat → Nat → Bool) (text : Array Char) :
    (n : Nat) → (place : Nat) → Option Fit
  | 0, _ => none
  | n + 1, place =>
    match s.fitAt? accept text place with
    | some fit => some fit
    | none => s.findWithin accept text n (place + 1)

/-- The first accepted text that fits from a place on or behind it. -/
def findWhere? (s : Search) (accept : Nat → Nat → Bool) (text : Array Char) (place : Nat) :
    Option Fit :=
  s.findWithin accept text (text.size + 1 - place) place

/-- The first text that fits from a place on or behind it. -/
def find? (s : Search) (text : Array Char) (place : Nat) : Option Fit :=
  s.findWhere? (fun _ _ => true) text place

def isIn (s : Search) (text : Chars) : Bool := (s.find? text.toArray 0).isSome

end Search

end Switchboard.Shell
