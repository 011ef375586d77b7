import Switchboard.Json.Token

/-!
# Reading documents

`Value.parse` accepts exactly one document with blanks around it. Lists and records nest up to
`maxDepth`; the depth that is left is the argument over which the reader recurs, and the loops over
items and members are bounded by the size of the text.
-/

namespace Switchboard.Json

/-- How many lists and records may stand in one another. -/
def maxDepth : Nat := 127

/-- The reader of a scalar that starts with the given character, if one does. -/
def scalar? : List Char → Option (Except Stop (Value × List Char))
  | 'n' :: rest => some (readWord .null ['u', 'l', 'l'] rest)
  | 't' :: rest => some (readWord (.bool true) ['r', 'u', 'e'] rest)
  | 'f' :: rest => some (readWord (.bool false) ['a', 'l', 's', 'e'] rest)
  | '"' :: rest => some (match readString rest with
    | .ok (s, rest) => .ok (.string s, rest)
    | .error e => .error e)
  | c :: rest =>
    if c = '-' ∨ isDigit c then
      some (match readNumber (c :: rest) with
        | .ok (n, rest) => .ok (.number n, rest)
        | .error e => .error e)
    else none
  | [] => none

/-- The items after the first, up to the closing bracket. -/
def readMoreItems {α : Type} (item : Reader α) : (bound : Nat) → List α → Reader (List α)
  | 0, _, cs => .error (Stop.next .expectedListEnd cs)
  | bound + 1, acc, cs =>
    match skipSpace cs with
    | [] => .error (Stop.next .endInList [])
    | ']' :: rest => .ok (acc.reverse, rest)
    | ',' :: rest =>
      match skipSpace rest with
      | [] => .error (Stop.next .endInValue [])
      | ']' :: rest => .error (Stop.next .trailingComma (']' :: rest))
      | cs => do
        let (v, cs) ← item cs
        readMoreItems item bound (v :: acc) cs
    | cs => .error (Stop.next .expectedListEnd cs)

/-- The items of a list whose opening bracket was read. -/
def readItems {α : Type} (item : Reader α) (bound : Nat) : Reader (List α) := fun cs =>
  match skipSpace cs with
  | [] => .error (Stop.next .endInList [])
  | ']' :: rest => .ok ([], rest)
  | cs => do
    let (v, cs) ← item cs
    readMoreItems item bound [v] cs

/-- The colon after a member's name. -/
def readColon : Reader Unit := fun cs =>
  match skipSpace cs with
  | ':' :: rest => .ok ((), rest)
  | [] => .error (Stop.next .endInObject [])
  | cs => .error (Stop.next .expectedColon cs)

/-- A member whose name's opening quote was read. -/
def readMember {α : Type} (value : Reader α) : Reader (String × α) := fun cs => do
  let (k, cs) ← readString cs
  let ((), cs) ← readColon cs
  let (v, cs) ← value cs
  .ok ((k, v), cs)

/-- Up to the next name of a record: the opening quote of the name is read, or the closing brace.
`true` says that there is a name. -/
def readNextName (first : Bool) : Reader Bool := fun cs =>
  match skipSpace cs with
  | [] => .error (Stop.next .endInObject [])
  | '\x7d' :: rest => .ok (false, rest)
  | ',' :: rest =>
    if first then .error (Stop.next .keyNotString (',' :: rest)) else
    match skipSpace rest with
    | '"' :: rest => .ok (true, rest)
    | '\x7d' :: rest => .error (Stop.next .trailingComma ('\x7d' :: rest))
    | [] => .error (Stop.next .endInValue [])
    | cs => .error (Stop.next .keyNotString cs)
  | '"' :: rest =>
    if first then .ok (true, rest) else .error (Stop.next .expectedObjectEnd ('"' :: rest))
  | cs => .error (Stop.next (if first then .keyNotString else .expectedObjectEnd) cs)

/-- The members up to the closing brace; `acc` holds those before, the last one first. -/
def readMembers {α : Type} (value : Reader α) :
    (bound : Nat) → (first : Bool) → List (String × α) → Reader (List (String × α))
  | 0, _, _, cs => .error (Stop.next .expectedObjectEnd cs)
  | bound + 1, first, acc, cs => do
    let (more, cs) ← readNextName first cs
    if more then
      let (m, cs) ← readMember value cs
      readMembers value bound false (m :: acc) cs
    else .ok (acc.reverse, cs)

/-- A document at the front of a text. -/
def readValue (bound : Nat) : (depth : Nat) → Reader Value
  | 0, cs =>
    match skipSpace cs with
    | [] => .error (Stop.next .endInValue [])
    | '[' :: rest => .error (Stop.next .tooDeep ('[' :: rest))
    | '\x7b' :: rest => .error (Stop.next .tooDeep ('\x7b' :: rest))
    | cs => (scalar? cs).getD (.error (Stop.next .expectedValue cs))
  | depth + 1, cs =>
    match skipSpace cs with
    | [] => .error (Stop.next .endInValue [])
    | '[' :: rest => do
      let (items, rest) ← readItems (readValue bound depth) bound rest
      .ok (.array items, rest)
    | '\x7b' :: rest => do
      let (members, rest) ← readMembers (readValue bound depth) bound true [] rest
      .ok (.object (Members.ofList members), rest)
    | cs => (scalar? cs).getD (.error (Stop.next .expectedValue cs))

/-- What a reader finds in a whole text, after which only blanks may follow. -/
def readAll {α : Type} (reader : Reader α) (text : List Char) : Except Error α :=
  match reader text with
  | .error stop => .error (stop.locate text)
  | .ok (v, rest) =>
    match skipSpace rest with
    | [] => .ok v
    | rest => .error ((Stop.next .trailingCharacters rest).locate text)

/-- The bound on loops over a text: each round takes a character. -/
def loopBound (text : List Char) : Nat := text.length + 1

/-- The document a text holds. -/
def Value.parse (text : String) : Except Error Value :=
  let cs := text.toList
  readAll (readValue (loopBound cs) maxDepth) cs

/-! ### Passing over values -/

/-- What may follow inside of an open list or record that is passed over. -/
inductive Skim where
  | value
  | rest (afterItem : Bool)
  deriving DecidableEq

/-- Passes over one value. Only the brackets that are open are kept, `true` for a list; neither
their number nor the size of numbers is limited, and a comma may be followed by nothing but a
further item. -/
def skimFrom : (bound : Nat) → (open_ : List Bool) → Skim → Reader Unit
  | 0, _, _, cs => .error (Stop.next .expectedValue cs)
  | bound + 1, open_, .value, cs =>
    match skipSpace cs with
    | [] => .error (Stop.next .endInValue [])
    | '[' :: rest => skimFrom bound (true :: open_) (.rest false) rest
    | '\x7b' :: rest => skimFrom bound (false :: open_) (.rest false) rest
    | 'n' :: rest => do
      let ((), rest) ← readWord () ['u', 'l', 'l'] rest
      skimFrom bound open_ (.rest true) rest
    | 't' :: rest => do
      let ((), rest) ← readWord () ['r', 'u', 'e'] rest
      skimFrom bound open_ (.rest true) rest
    | 'f' :: rest => do
      let ((), rest) ← readWord () ['a', 'l', 's', 'e'] rest
      skimFrom bound open_ (.rest true) rest
    | '"' :: rest => do
      let ((), rest) ← skimString rest
      skimFrom bound open_ (.rest true) rest
    | c :: rest =>
      if c = '-' ∨ isDigit c then do
        let ((), rest) ← skimNumber (c :: rest)
        skimFrom bound open_ (.rest true) rest
      else .error (Stop.next .expectedValue (c :: rest))
  | _ + 1, [], .rest _, cs => .ok ((), cs)
  | bound + 1, isList :: outer, .rest afterItem, cs =>
    let close := if isList then ']' else '\x7d'
    let item (cs : List Char) : Except Stop (Unit × List Char) :=
      if isList then skimFrom bound (isList :: outer) .value cs
      else
        match skipSpace cs with
        | '"' :: rest => do
          let ((), rest) ← skimString rest
          let ((), rest) ← readColon rest
          skimFrom bound (isList :: outer) .value rest
        | [] => .error (Stop.next .endInObject [])
        | cs => .error (Stop.next .keyNotString cs)
    match skipSpace cs with
    | [] => .error (Stop.next (if isList then .endInList else .endInObject) [])
    | c :: rest =>
      if c = close then skimFrom bound outer (.rest true) rest
      else if afterItem then
        if c = ',' then item rest
        else
          let expected : Fault := if isList then .expectedListEnd else .expectedObjectEnd
          .error (Stop.next expected (c :: rest))
      else item (c :: rest)

/-- Passes over one value at the front of a text. -/
def skim (bound : Nat) : Reader Unit := skimFrom (2 * bound + 2) [] .value

end Switchboard.Json
