import Switchboard.Json.Parser

/-!
# Typed reading

A `Decoder α` reads an `α` in two ways: from a document that was read before, where a fault has no
place, and straight from a text, where it has one. The second way is not the first after parsing. It
stops at the first fault of either kind, and members that nobody asked for are only passed over.
-/

namespace Switchboard.Json

open Switchboard.Number

structure Decoder (α : Type) where
  /-- Reads a document. -/
  ofValue : Value → Except Fault α
  /-- Reads the front of a text; the arguments bound the loops and the depth. -/
  ofText : (bound depth : Nat) → Reader α

namespace Decoder

/-- The value in a whole text. -/
def parse {α : Type} (d : Decoder α) (text : String) : Except Error α :=
  let cs := text.toList
  readAll (d.ofText (loopBound cs) maxDepth) cs

/-- The value in a document. -/
def decode {α : Type} (d : Decoder α) (v : Value) : Except Error α :=
  match d.ofValue v with
  | .ok a => .ok a
  | .error fault => .error { fault, position := none }

def map {α β : Type} (f : α → β) (d : Decoder α) : Decoder β where
  ofValue v := f <$> d.ofValue v
  ofText bound depth cs := do
    let (a, rest) ← d.ofText bound depth cs
    .ok (f a, rest)

/-- Any document. -/
def value : Decoder Value where
  ofValue v := .ok v
  ofText bound depth := readValue bound depth

/-! ### Scalars -/

/-- A scalar, or the bare fact that a list or a record begins, which is then left unread. -/
def readFound : Reader Found := fun cs =>
  match skipSpace cs with
  | [] => .error (Stop.next .endInValue [])
  | '[' :: rest => .ok (.sequence, '[' :: rest)
  | '\x7b' :: rest => .ok (.map, '\x7b' :: rest)
  | cs =>
    match scalar? cs with
    | some (.ok (v, rest)) => .ok (v.found, rest)
    | some (.error stop) => .error stop
    | none => .error (Stop.next .expectedValue cs)

/-- Turns a fault of a value into one right before the rest. -/
def placed {α : Type} (rest : List Char) : Except Fault α → Except Stop (α × List Char)
  | .ok a => .ok (a, rest)
  | .error fault => .error (Stop.here fault rest)

/-- A value that is judged by what is found, its parts not being looked at. -/
def ofFound {α : Type} (accept : Found → Except Fault α) : Decoder α where
  ofValue v := accept v.found
  ofText _ _ cs := do
    let (found, rest) ← readFound cs
    placed rest (accept found)

/-- An integer from `low` to `high`. -/
def integer (low high : Int) (expected : String) : Decoder Int :=
  ofFound fun
    | .number (.int i) =>
      if low ≤ i ∧ i ≤ high then .ok i else .error (.outOfRange i expected)
    | found => .error (.wrongType found expected)

def int64 : Decoder Int := integer minInt64 maxInt64 "i64"

/-- A natural number up to a greatest one. -/
def word (greatest : Nat) (expected : String) : Decoder Nat :=
  (integer 0 greatest expected).map Int.toNat

/-- A double; an integer is taken as the nearest one. -/
def float : Decoder Binary64 :=
  ofFound fun
    | .number (.float x) => .ok x
    | .number (.int i) => .ok (.ofInt i)
    | found => .error (.wrongType found "f64")

def bool : Decoder Bool :=
  ofFound fun
    | .bool b => .ok b
    | found => .error (.wrongType found "a boolean")

/-- A text, called `expected` where another value stands. -/
def text (expected : String) : Decoder String :=
  ofFound fun
    | .string s => .ok s
    | found => .error (.wrongType found expected)

def string : Decoder String := text "a string"

def unit : Decoder Unit :=
  ofFound fun
    | .null => .ok ()
    | found => .error (.wrongType found "unit")

/-! ### Compounds -/

/-- Null is nothing; all else is read by `d`. -/
def option {α : Type} (d : Decoder α) : Decoder (Option α) where
  ofValue
    | .null => .ok none
    | v => some <$> d.ofValue v
  ofText bound depth cs :=
    match skipSpace cs with
    | 'n' :: rest => readWord none ['u', 'l', 'l'] rest
    | cs => do
      let (a, rest) ← d.ofText bound depth cs
      .ok (some a, rest)

/-- A value of another kind than the list or record that was expected. -/
def readWrong {α : Type} (expected : String) : Reader α := fun cs => do
  let (found, rest) ← readFound cs
  .error (Stop.here (.wrongType found expected) rest)

/-- Up to the next item of a list: `true` if there is one, `false` after the closing bracket. -/
def readNextItem (first : Bool) : Reader Bool := fun cs =>
  match skipSpace cs with
  | [] => .error (Stop.next .endInList [])
  | ']' :: rest => .ok (false, rest)
  | ',' :: rest =>
    if first then .ok (true, ',' :: rest) else
    match skipSpace rest with
    | [] => .error (Stop.next .endInValue [])
    | ']' :: rest => .error (Stop.next .trailingComma (']' :: rest))
    | cs => .ok (true, cs)
  | cs => if first then .ok (true, cs) else .error (Stop.next .expectedListEnd cs)

/-- The closing bracket of a list that is to have no further items. -/
def readListEnd : Reader Unit := fun cs =>
  match skipSpace cs with
  | [] => .error (Stop.next .endInList [])
  | ']' :: rest => .ok ((), rest)
  | ',' :: rest =>
    match skipSpace rest with
    | ']' :: rest => .error (Stop.next .trailingComma (']' :: rest))
    | cs => .error (Stop.next .trailingCharacters cs)
  | cs => .error (Stop.next .trailingCharacters cs)

def list {α : Type} (d : Decoder α) : Decoder (List α) where
  ofValue
    | .array items => items.mapM d.ofValue
    | v => .error (.wrongType v.found "a sequence")
  ofText bound depth cs :=
    match skipSpace cs with
    | '[' :: rest =>
      match depth with
      | 0 => .error (Stop.next .tooDeep ('[' :: rest))
      | depth + 1 => readItems (d.ofText bound depth) bound rest
    | cs => readWrong "a sequence" cs

/-- A list of exactly two items. -/
def pair {α β : Type} (da : Decoder α) (db : Decoder β) : Decoder (α × β) where
  ofValue
    | .array items =>
      match items with
      | [] => .error (.wrongLength 0 expected)
      | [v] => do
        let _ ← da.ofValue v
        .error (.wrongLength 1 expected)
      | v :: w :: rest => do
        let a ← da.ofValue v
        let b ← db.ofValue w
        if rest.isEmpty then .ok (a, b)
        else .error (.wrongLength items.length "fewer elements in array")
    | v => .error (.wrongType v.found expected)
  ofText bound depth cs :=
    match skipSpace cs, depth with
    | '[' :: rest, 0 => .error (Stop.next .tooDeep ('[' :: rest))
    | '[' :: rest, depth + 1 => do
      let (more, rest) ← readNextItem true rest
      if more then
        let (a, rest) ← da.ofText bound depth rest
        let (more, rest) ← readNextItem false rest
        if more then
          let (b, rest) ← db.ofText bound depth rest
          let ((), rest) ← readListEnd rest
          .ok ((a, b), rest)
        else .error (Stop.here (.wrongLength 1 expected) rest)
      else .error (Stop.here (.wrongLength 0 expected) rest)
    | cs, _ => readWrong expected cs
where
  expected : String := "a tuple of size 2"

/-- A record of any names whose values are all read by `d`. -/
def members {α : Type} (d : Decoder α) : Decoder (List (String × α)) where
  ofValue
    | .object ms => ms.mapM fun (k, v) => do
      let a ← d.ofValue v
      .ok (k, a)
    | v => .error (.wrongType v.found "a map")
  ofText bound depth cs :=
    match skipSpace cs, depth with
    | '\x7b' :: rest, 0 => .error (Stop.next .tooDeep ('\x7b' :: rest))
    | '\x7b' :: rest, depth + 1 => readMembers (d.ofText bound depth) bound true [] rest
    | cs, _ => readWrong "a map" cs

/-- One of a list of names. A record whose only member has the name and the value null will do. -/
def choice {α : Type} (known : List (String × α)) : Decoder α where
  ofValue
    | .string s => pick s
    | .object [(k, v)] => do
      let a ← pick k
      let () ← unit.ofValue v
      .ok a
    | .object _ => .error .oneMember
    | v => .error (.wrongType v.found "string or map")
  ofText bound depth cs :=
    match skipSpace cs with
    | [] => .error (Stop.next .endInValue [])
    | '"' :: rest => do
      let (s, rest) ← readString rest
      placed rest (pick s)
    | '\x7b' :: rest =>
      match depth with
      | 0 => .error (Stop.next .tooDeep ('\x7b' :: rest))
      | depth + 1 => do
        let (named, rest) ← readNextName true rest
        if named then
          let (s, rest) ← readString rest
          let (a, rest) ← placed rest (pick s)
          let ((), rest) ← readColon rest
          let ((), rest) ← unit.ofText bound depth rest
          match skipSpace rest with
          | '\x7d' :: rest => .ok (a, rest)
          | [] => .error (Stop.here .endInObject [])
          | rest => .error (Stop.here .expectedValue rest)
        else .error (Stop.here .expectedValue rest)
    | cs => .error (Stop.next .expectedValue cs)
where
  pick (s : String) : Except Fault α :=
    match known.lookup s with
    | some a => .ok a
    | none => .error (.unknownVariant s (known.map Prod.fst))

end Decoder

/-! ### Records -/

/-- A member of a record: its name, what its value does to the record, and whether it has to be
there. -/
structure Field (σ : Type) where
  name : String
  set : Decoder (σ → σ)
  required : Bool

namespace Field

/-- A member that may be missing. -/
def optional {σ α : Type} (name : String) (d : Decoder α) (set : α → σ → σ) : Field σ :=
  { name, set := d.map set, required := false }

/-- A member that has to be there. -/
def needed {σ α : Type} (name : String) (d : Decoder α) (set : α → σ → σ) : Field σ :=
  { name, set := d.map set, required := true }

/-- The first member that has to be there and is not. -/
def missing? {σ : Type} (fields : List (Field σ)) (seen : List String) : Option String :=
  (fields.find? fun f => f.required && !seen.contains f.name).map Field.name

/-- How many members there are up to the first that has to be there, if one has to. -/
def firstRequired? {σ : Type} (fields : List (Field σ)) : Option Nat :=
  fields.findIdx? Field.required

end Field

namespace Decoder

/-- The fault of a record with too few items, `done` of which were read. -/
def tooFew {σ : Type} (what : String) (total done : Nat) (rest : List (Field σ)) : Option Fault :=
  (Field.firstRequired? rest).map fun i =>
    .wrongLength (done + i) s!"{what} with {total} elements"

/-- A record given as the list of its members in their order. -/
def itemsOfValue {σ : Type} (what : String) (total length : Nat) :
    (done : Nat) → List (Field σ) → List Value → σ → Except Fault σ
  | done, fields, [], r =>
    match tooFew what total done fields with
    | some fault => .error fault
    | none => .ok r
  | _, [], _ :: _, _ => .error (.wrongLength length "fewer elements in array")
  | done, f :: fields, v :: vs, r => do
    let g ← f.set.ofValue v
    itemsOfValue what total length (done + 1) fields vs (g r)

/-- A record given by named members. -/
def membersOfValue {σ : Type} (fields : List (Field σ)) :
    (seen : List String) → Members → σ → Except Fault σ
  | seen, [], r =>
    match Field.missing? fields seen with
    | some name => .error (.missingField name)
    | none => .ok r
  | seen, (k, v) :: ms, r =>
    match fields.find? (·.name == k) with
    | none => membersOfValue fields seen ms r
    | some f =>
      if seen.contains k then .error (.duplicateField k) else do
      let g ← f.set.ofValue v
      membersOfValue fields (k :: seen) ms (g r)

def readFieldItems {σ : Type} (what : String) (total bound depth : Nat) :
    (done : Nat) → List (Field σ) → σ → Reader σ
  | _, [], r, cs => do
    let ((), cs) ← readListEnd cs
    .ok (r, cs)
  | done, f :: fields, r, cs => do
    let (more, cs) ← readNextItem (done == 0) cs
    if more then
      let (g, cs) ← f.set.ofText bound depth cs
      readFieldItems what total bound depth (done + 1) fields (g r) cs
    else
      match tooFew what total done (f :: fields) with
      | some fault => .error (Stop.here fault cs)
      | none => .ok (r, cs)

/-- The place of a name that occurs again: behind the blanks after it, and behind the closing brace
if that is what follows. -/
def repeatedStop (name : String) (cs : List Char) : Stop :=
  match skipSpace cs with
  | '\x7d' :: rest => Stop.here (.duplicateField name) rest
  | cs => Stop.here (.duplicateField name) cs

def readFieldMembers {σ : Type} (fields : List (Field σ)) (loops depth : Nat) :
    (bound : Nat) → (seen : List String) → (first : Bool) → σ → Reader σ
  | 0, _, _, _, cs => .error (Stop.next .expectedObjectEnd cs)
  | bound + 1, seen, first, r, cs => do
    let (more, cs) ← readNextName first cs
    if more then
      let (k, cs) ← readString cs
      match fields.find? (·.name == k) with
      | none =>
        let ((), cs) ← readColon cs
        let ((), cs) ← skim loops cs
        readFieldMembers fields loops depth bound seen false r cs
      | some f =>
        if seen.contains k then .error (repeatedStop k cs) else
        let ((), cs) ← readColon cs
        let (g, cs) ← f.set.ofText loops depth cs
        readFieldMembers fields loops depth bound (k :: seen) false (g r) cs
    else
      match Field.missing? fields seen with
      | some name => .error (Stop.here (.missingField name) cs)
      | none => .ok (r, cs)

/-- A record with the given members, by name or as a list in their order. `empty` is the record
before any member is set. -/
def record {σ : Type} (what : String) (fields : List (Field σ)) (empty : σ) : Decoder σ where
  ofValue
    | .array items => itemsOfValue what fields.length items.length 0 fields items empty
    | .object members => membersOfValue fields [] members empty
    | v => .error (.wrongType v.found what)
  ofText bound depth cs :=
    match skipSpace cs, depth with
    | '[' :: rest, 0 => .error (Stop.next .tooDeep ('[' :: rest))
    | '\x7b' :: rest, 0 => .error (Stop.next .tooDeep ('\x7b' :: rest))
    | '[' :: rest, depth + 1 =>
      readFieldItems what fields.length bound depth 0 fields empty rest
    | '\x7b' :: rest, depth + 1 => readFieldMembers fields bound depth bound [] true empty rest
    | cs, _ => readWrong what cs

end Decoder

end Switchboard.Json
