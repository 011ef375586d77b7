import Switchboard.Shell.Streams

/-!
# Translating characters

The program `tr` gives each character of its input another one, or takes it away. Its arguments are
sets of characters: ranges, classes and repetitions among them. What is wrong with sets is a cause,
the wording of which stands in one place.
-/

namespace Switchboard.Shell

/-! ### Sets -/

/-- What is wrong with the sets of characters. -/
inductive SetFault where
  | reversedRange (first last : Char)
  | unknownClass (name : Chars)
  | missingClass
  /-- An equivalence class that holds more than one character, or none. -/
  | notOneAlike (text : Chars)
  | badCount (text : Chars)
  | fillingFirst
  | fillingTwice
  | fillingUntranslated
  | alikeSecond
  | otherClassSecond
  | misplacedCase
  | emptySecond
  | caseLast
  | notOneForAll

/-- What is wrong, in words. -/
def SetFault.message : SetFault → Chars
  | reversedRange first last =>
    "range-endpoints of ".toList ++ betweenQuotes [first, '-', last] ++
      " are in reverse collating sequence order".toList
  | unknownClass name => "invalid character class ".toList ++ betweenQuotes name
  | missingClass => "missing character class name '[::]'".toList
  | notOneAlike text =>
    if text.isEmpty then "missing equivalence class character '[==]'".toList
    else text ++ ": equivalence class operand must be a single character".toList
  | badCount text =>
    "invalid repeat count ".toList ++ betweenQuotes text ++ " in [c*n] construct".toList
  | fillingFirst => "the [c*] repeat construct may not appear in string1".toList
  | fillingTwice => "only one [c*] repeat construct may appear in string2".toList
  | fillingUntranslated =>
    "the [c*] construct may appear in string2 only when translating".toList
  | alikeSecond => "[=c=] expressions may not appear in string2 when translating".toList
  | otherClassSecond =>
    ("when translating, the only character classes that may appear in\n" ++
      "string2 are 'upper' and 'lower'").toList
  | misplacedCase => "misaligned [:upper:] and/or [:lower:] construct".toList
  | emptySecond => "when not truncating set1, string2 must be non-empty".toList
  | caseLast =>
    ("when translating with string1 longer than string2,\n" ++
      "the latter string must not end with a character class").toList
  | notOneForAll =>
    ("when translating with complemented character classes,\n" ++
      "string2 must map all characters in the domain to one").toList

/-- The characters between two, both of them taken in. -/
def charsBetween (a b : Char) : Chars :=
  (List.range (b.toNat + 1 - a.toNat)).map fun i => Char.ofNat (a.toNat + i)

/-- What a part of a set names. -/
inductive SetPart where
  | chars (chars : Chars)
  /-- A character as often as the set has room. -/
  | filling (char : Char)
  /-- All small or all capital letters. -/
  | cased (letters : Chars)
  /-- Another class of characters. -/
  | class_ (chars : Chars)
  | alike (char : Char)

namespace SetPart

/-- The class with a name. -/
def ofName? (name : Chars) : Option SetPart :=
  let lower := charsBetween 'a' 'z'
  let upper := charsBetween 'A' 'Z'
  let digits := charsBetween '0' '9'
  let printed := charsBetween '!' '~'
  match String.ofList name with
  | "lower" => some (.cased lower)
  | "upper" => some (.cased upper)
  | "digit" => some (.class_ digits)
  | "alpha" => some (.class_ (upper ++ lower))
  | "alnum" => some (.class_ (digits ++ upper ++ lower))
  | "blank" => some (.class_ ['\t', ' '])
  | "space" => some (.class_ (charsBetween '\t' '\r' ++ [' ']))
  | "punct" => some (.class_ (printed.filter fun c => !c.isAlphanum))
  | "graph" => some (.class_ printed)
  | "print" => some (.class_ (' ' :: printed))
  | "cntrl" => some (.class_ (charsBetween '\x00' '\x1f' ++ ['\x7f']))
  | "xdigit" => some (.class_ (digits ++ charsBetween 'A' 'F' ++ charsBetween 'a' 'f'))
  | _ => none

/-- The characters of a part; one that fills the set stands `room` times. -/
def members (room : Nat) : SetPart → Chars
  | .chars members => members
  | .filling c => List.replicate room c
  | .cased letters => letters
  | .class_ members => members
  | .alike c => [c]

def isFilling : SetPart → Bool
  | .filling _ => true
  | _ => false

def isAlike : SetPart → Bool
  | .alike _ => true
  | _ => false

def isCased : SetPart → Bool
  | .cased _ => true
  | _ => false

def isOtherClass : SetPart → Bool
  | .class_ _ => true
  | _ => false

end SetPart

/-- A character of a set, which may be written with a backslash. -/
def readSetChar : Chars → Option (Char × Chars)
  | [] => none
  | '\\' :: c :: rest =>
    if isOctal c then
      let digits := ((c :: rest).take 3).takeWhile isOctal
      some (byteChar (baseValue 8 digits), (c :: rest).drop digits.length)
    else some ((escapeLetter? c).getD c, rest)
  | c :: rest => some (c, rest)

/-- The text up to a mark followed by a closing bracket, with what follows the bracket. -/
def upToBracket? (mark : Char) : Chars → Option (Chars × Chars)
  | [] => none
  | c :: rest =>
    if c = mark && rest.head? = some ']' then some ([], rest.drop 1)
    else (upToBracket? mark rest).map fun (text, rest) => (c :: text, rest)

/-- A character that a set repeats, such as `[a*5]` or `[a*]`. -/
def readRepeated : Chars → Except SetFault (Option (SetPart × Chars))
  | '[' :: rest =>
    match readSetChar rest with
    | some (c, '*' :: rest) =>
      match rest.span (· ≠ ']') with
      | (_, []) => .ok none
      | (digits, _ :: rest) =>
        let base := if digits.head? = some '0' then 8 else 10
        if !digits.all (if base = 8 then isOctal else Char.isDigit) then .error (.badCount digits)
        else match baseValue base digits with
          | 0 => .ok (some (.filling c, rest))
          | n => .ok (some (.chars (List.replicate n c), rest))
    | _ => .ok none
  | _ => .ok none

/-- A class at the front of a set. -/
def readClass : Chars → Except SetFault (Option (SetPart × Chars))
  | '[' :: ':' :: rest =>
    match upToBracket? ':' rest with
    | none => .ok none
    | some ([], _) => .error .missingClass
    | some (name, behind) =>
      match SetPart.ofName? name, readRepeated ('[' :: ':' :: rest) with
      | some part, _ => .ok (some (part, behind))
      | none, .ok (some found) => .ok (some found)
      | none, _ => .error (.unknownClass name)
  | '[' :: '=' :: rest =>
    match upToBracket? '=' rest with
    | none => .ok none
    | some ([c], behind) => .ok (some (.alike c, behind))
    | some (text, _) =>
      match readRepeated ('[' :: '=' :: rest) with
      | .ok (some found) => .ok (some found)
      | _ => .error (.notOneAlike text)
  | _ => .ok none

/-- The parts of a set, read in at most `n` steps. -/
def setParts : (n : Nat) → Chars → Except SetFault (List SetPart)
  | 0, _ => .ok []
  | n + 1, cs => do
    if let some (part, rest) ← readClass cs then return part :: (← setParts n rest)
    if let some (part, rest) ← readRepeated cs then return part :: (← setParts n rest)
    match readSetChar cs with
    | none => return []
    | some (first, '-' :: rest) =>
      match readSetChar rest with
      | none => return [.chars [first, '-']]
      | some (last, rest) =>
        if last < first then throw (.reversedRange first last)
        return .chars (charsBetween first last) :: (← setParts n rest)
    | some (c, rest) => return .chars [c] :: (← setParts n rest)

/-- The characters of a set; `length` is that of the set that it goes with. -/
def setMembers (length : Nat) (parts : List SetPart) : Chars :=
  let known := (parts.flatMap (SetPart.members 0)).length
  parts.flatMap (SetPart.members (length - known))

/-- Where the letters of one case begin in a set. -/
def casePlaces : (place : Nat) → List SetPart → List Nat
  | _, [] => []
  | place, part :: rest =>
    let more := casePlaces (place + (part.members 0).length) rest
    if part.isCased then place :: more else more

/-! ### Changing a text -/

/-- A text with each run of a character in a set made one. -/
def squeeze (set : Chars) (text : Chars) : Chars :=
  ((text.splitBy fun a b => a == b && set.contains a).map fun g =>
    if set.contains (g.headD ' ') then g.take 1 else g).flatten

/-- A text with the characters of one set in the places of those of another. Of two that are alike,
the last one holds. -/
def translate (source target text : Chars) : Chars :=
  let back := source.zipIdx.reverse
  text.map fun c =>
    match back.lookup c with
    | some i => (target[i]?).getD (target.getLast?.getD c)
    | none => c

/-- The characters that are not in a set. -/
def othersThan (set : Chars) : Chars :=
  (charsBetween '\x00' '\xff').filter fun c => !set.contains c

/-- The characters of a first set, which is that of all others if the options say so. -/
def firstSet (o : Options) (parts : List SetPart) : Except SetFault Chars :=
  if parts.any SetPart.isFilling then .error .fillingFirst
  else
    let set := setMembers 0 parts
    .ok (if o.has 'c' || o.has 'C' then othersThan set else set)

/-- The characters that take the places of those of the first set. -/
def secondSet (o : Options) (parts : List SetPart) (first : Chars) (more : List SetPart) :
    Except SetFault Chars := do
  let isOther := o.has 'c' || o.has 'C'
  let target := setMembers first.length more
  if 1 < more.countP SetPart.isFilling then throw .fillingTwice
  if more.any SetPart.isAlike then throw .alikeSecond
  if more.any SetPart.isOtherClass then throw .otherClassSecond
  let begins := casePlaces 0 parts
  if !isOther && (casePlaces 0 more).any fun place =>
      place ≤ first.length && !begins.contains place then throw .misplacedCase
  if target.length < first.length && !o.has 't' then
    if target.isEmpty then throw .emptySecond
    if (more.getLast?.map SetPart.isCased).getD false then throw .caseLast
  let hasClass := parts.any fun p => p.isCased || p.isOtherClass
  let isOne := target.all fun c => some c = target.head?
  let reaches := target.length = first.length || (target.length < first.length && !o.has 't')
  if isOther && hasClass && !(isOne && reaches) then throw .notOneForAll
  return target

/-- What the options and the one or two sets do to a text. -/
def textChange (o : Options) (set : Chars) (more : Option Chars) :
    Except SetFault (Chars → Chars) := do
  let parts ← setParts (set.length + 1) set
  let moreParts ← more.mapM fun more => setParts (more.length + 1) more
  let first ← firstSet o parts
  match o.has 'd', moreParts with
  | true, none => return fun text => text.filter fun c => !first.contains c
  | false, none => return squeeze first
  | true, some more =>
    if more.any SetPart.isFilling then throw .fillingUntranslated
    return fun text => squeeze (setMembers 0 more) (text.filter fun c => !first.contains c)
  | false, some more =>
    let target ← secondSet o parts first more
    let source := if o.has 't' then first.take target.length else first
    return fun text =>
      let text := translate source target text
      if o.has 's' then squeeze target text else text

def translatingOptions : OptionTable where
  plain := ['c', 'C', 'd', 's', 't']
  valued := []
  long := [("delete", 'd'), ("squeeze-repeats", 's'), ("complement", 'c'), ("truncate-set1", 't')]
  isLeading := true

def trProgram (arguments : List Chars) : Run Unit :=
  withOptions "tr" translatingOptions 1 arguments fun o => do
    let least := if o.has 'd' == o.has 's' then 2 else 1
    let most := if o.has 'd' && !o.has 's' then 1 else 2
    match o.operands with
    | [] => refuseUse "tr" 1 "missing operand".toList
    | set :: rest =>
      if rest.length + 1 < least then
        writeError "tr" ("missing operand after ".toList ++ betweenQuotes set)
        let _ ← writeTo 2 ("Two strings must be given when " ++
          (if o.has 's' then "both deleting and squeezing repeats.\n" else "translating.\n")).toList
        showHelp "tr" 1
      else if most < rest.length + 1 then
        writeError "tr" ("extra operand ".toList ++ betweenQuotes (rest.getD (most - 1) []))
        if rest.length = 1 then
          let _ ← writeTo 2
            "Only one string may be given when deleting without squeezing repeats.\n".toList
        showHelp "tr" 1
      else match textChange o set rest.head? with
        | .error fault => do
          writeError "tr" fault.message
          setStatus 1
        | .ok change => do
          let text ← readAllInput
          writeOut (change text)
          setStatus 0

end Switchboard.Shell
