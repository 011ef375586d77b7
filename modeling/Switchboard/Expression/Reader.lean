import Switchboard.Expression.Syntax
import Switchboard.Text.Blank
import Switchboard.Text.Letter

/-!
# Reading regular expressions

An expression is read in one pass, with a stack of the groups that are open and, within a set, a
stack of the sets that are open. A value of a directive holds no closing brace, so that nothing that
is given in braces ever comes to its end: an opening brace outside of a set is an error wherever it
does not stand for itself.
-/

namespace Switchboard.Expression

/-! ### Blanks -/

/-- Passes over blanks and comments if they do not count. -/
def skip (blanks : Bool) : List Char → List Char
  | [] => []
  | c :: cs =>
    if !blanks then c :: cs
    else if Text.isBlank c then skip blanks cs
    else if c = '#' then comment cs
    else c :: cs
where
  /-- The rest of a comment. -/
  comment : List Char → List Char
    | [] => []
    | c :: cs => if c = '\n' then skip blanks cs else comment cs

/-- The character that decides what a hyphen before it means. A number sign and blanks are passed
over once if they do not count. -/
def following? (blanks : Bool) (cs : List Char) : Option Char :=
  if !blanks then cs.head?
  else
    match cs.dropWhile Text.isBlank with
    | '#' :: rest => ((rest.dropWhile Text.isBlank).head?).or cs.head?
    | rest => rest.head?.or cs.head?

/-! ### Escapes -/

/-- What an escape stands for. -/
inductive Escape where
  | literal (literal : Literal)
  | look (look : Look)
  | kind (negated : Bool)
  | property

def hexValue? (c : Char) : Option Nat :=
  if '0' ≤ c && c ≤ '9' then some (c.toNat - '0'.toNat)
  else if 'a' ≤ c && c ≤ 'f' then some (c.toNat - 'a'.toNat + 10)
  else if 'A' ≤ c && c ≤ 'F' then some (c.toNat - 'A'.toNat + 10)
  else none

/-- Reads a character that is given by `n` hexadecimal digits. -/
def readHex (blanks : Bool) : (n value : Nat) → List Char → Option (Nat × List Char)
  | 0, value, cs => some (value, cs)
  | n + 1, value, cs => do
    match cs with
    | [] => none
    | c :: cs => readHex blanks n (16 * value + (← hexValue? c)) (skip blanks cs)

/-- Reads a character of two, four or eight digits. -/
def readCharacter (blanks : Bool) (digits : Nat) (cs : List Char) :
    Option (Escape × List Char) := do
  let (value, cs) ← readHex blanks digits 0 (skip blanks cs)
  if h : value.isValidChar then
    some (.literal { char := Char.ofNatAux value h, isByte := digits == 2 }, cs)
  else none

/-- Reads a property that is named by one letter. -/
def readProperty (blanks : Bool) (cs : List Char) : Option (Escape × List Char) :=
  match skip blanks cs with
  | [] => none
  | '\\' :: _ => none
  | '\x7b' :: _ => none
  | _ :: cs => some (.property, skip blanks cs)

/-- Whether a character other than a letter or a digit may be escaped, so that it stands for itself.
-/
def isEscapable (c : Char) : Bool :=
  c.toNat < 128 && !c.isAlphanum && c ≠ '<' && c ≠ '>'

/-- Reads what follows a backslash. -/
def readEscape (blanks : Bool) : List Char → Option (Escape × List Char)
  | [] => none
  | c :: cs =>
    let stands (c : Char) := some (Escape.literal { char := c, isByte := false }, cs)
    if isEscapable c then stands c
    else match c with
      | 'x' => readCharacter blanks 2 cs
      | 'u' => readCharacter blanks 4 cs
      | 'U' => readCharacter blanks 8 cs
      | 'p' => readProperty blanks cs
      | 'P' => readProperty blanks cs
      | 'd' => some (.kind false, cs)
      | 's' => some (.kind false, cs)
      | 'w' => some (.kind false, cs)
      | 'D' => some (.kind true, cs)
      | 'S' => some (.kind true, cs)
      | 'W' => some (.kind true, cs)
      | 'a' => stands '\x07'
      | 'f' => stands '\x0c'
      | 't' => stands '\t'
      | 'n' => stands '\n'
      | 'r' => stands '\r'
      | 'v' => stands '\x0b'
      | 'A' => some (.look .text, cs)
      | 'z' => some (.look .text, cs)
      | 'b' => if cs.head? = some '\x7b' then none else some (.look .word, cs)
      | 'B' => some (.look .word, cs)
      | '<' => some (.look .word, cs)
      | '>' => some (.look .word, cs)
      | _ => none

/-! ### Sets of characters -/

/-- The names of classes. -/
def classNames : List (List Char) :=
  ["alnum", "alpha", "ascii", "blank", "cntrl", "digit", "graph", "lower", "print", "punct",
    "space", "upper", "word", "xdigit"].map String.toList

/-- A class with a name, after the bracket that opens it; nothing if none is named. -/
def readNamed? : List Char → Option (Member × List Char)
  | ':' :: cs =>
    let (negated, cs) := match cs with
      | '^' :: cs => (true, cs)
      | cs => (false, cs)
    match cs.span (· ≠ ':') with
    | (name, ':' :: ']' :: cs) =>
      if classNames.contains name then some (.named negated, cs) else none
    | _ => none
  | _ => none

/-- A set that is open: its items, the last one first, and what stands before an operation. -/
structure OpenSet where
  negated : Bool
  before : Option Members
  items : List Member

namespace OpenSet

def add (s : OpenSet) (m : Member) : OpenSet := { s with items := m :: s.items }

/-- All members up to here. -/
def members (s : OpenSet) : Members :=
  let items := Members.union s.items.reverse
  match s.before with
  | some left => .combined left items
  | none => items

/-- Begins the second set of an operation. -/
def combine (s : OpenSet) : OpenSet := { s with before := some s.members, items := [] }

end OpenSet

def hyphen : Member := .single { char := '-', isByte := false }

/-- Takes the hyphens at the front of a set, in at most `n` steps. -/
def takeHyphens (blanks : Bool) : (n : Nat) → OpenSet → List Char → OpenSet × List Char
  | n + 1, s, '-' :: cs => takeHyphens blanks n (s.add hyphen) (skip blanks cs)
  | _, s, cs => (s, cs)

/-- The front of a set, after the bracket that opens it. A closing bracket is a member if it comes
first. -/
def openSet (blanks : Bool) (cs : List Char) : Option (OpenSet × List Char) := do
  let cs := skip blanks cs
  let (negated, cs) := match cs with
    | '^' :: cs => (true, skip blanks cs)
    | cs => (false, cs)
  let (s, cs) := takeHyphens blanks cs.length { negated, before := none, items := [] } cs
  match s.items, cs with
  | _, [] => none
  | [], ']' :: cs =>
    match skip blanks cs with
    | [] => none
    | cs => some (s.add (.single { char := ']', isByte := false }), cs)
  | _, cs => some (s, cs)

/-- A character of a set, or an escape. -/
def readSetItem (blanks : Bool) : List Char → Option (Escape × List Char)
  | [] => none
  | '\\' :: cs => readEscape blanks cs
  | c :: cs => some (.literal { char := c, isByte := false }, cs)

/-- A member of a set that is no set itself. Places between characters are no members. -/
def readMember (blanks : Bool) (cs : List Char) : Option (Member × List Char) := do
  let (first, cs) ← readSetItem blanks cs
  let alone : Option Member := match first with
    | .literal l => some (.single l)
    | .kind negated => some (.kind negated)
    | .property => some .property
    | .look _ => none
  match skip blanks cs with
  | [] => none
  | '-' :: rest =>
    let next := following? blanks rest
    if next = some ']' || next = some '-' then some (← alone, '-' :: rest)
    else
      match skip blanks rest with
      | [] => none
      | rest =>
        match first, ← readSetItem blanks rest with
        | .literal a, (.literal b, rest) =>
          if a.char ≤ b.char then some (.range a b, rest) else none
        | _, _ => none
  | cs => some (← alone, cs)

/-- Whether the front of a text is an operation on sets. -/
def isOperation : List Char → Bool
  | '&' :: '&' :: _ => true
  | '-' :: '-' :: _ => true
  | '~' :: '~' :: _ => true
  | _ => false

/-- Reads the rest of a set, with the sets around it, in at most `n` steps. -/
def readSetRest (blanks : Bool) :
    (n : Nat) → OpenSet → List OpenSet → List Char → Option (Expression × List Char)
  | 0, _, _, _ => none
  | n + 1, s, around, cs =>
    match skip blanks cs with
    | [] => none
    | '[' :: cs =>
      match readNamed? cs with
      | some (m, cs) => readSetRest blanks n (s.add m) around cs
      | none => do
        let (inner, cs) ← openSet blanks cs
        readSetRest blanks n inner (s :: around) cs
    | ']' :: cs =>
      match around with
      | [] => some (.set s.negated s.members, cs)
      | outer :: around => readSetRest blanks n (outer.add (.set s.negated s.members)) around cs
    | cs =>
      if isOperation cs then readSetRest blanks n s.combine around (cs.drop 2)
      else do
        let (m, cs) ← readMember blanks cs
        readSetRest blanks n (s.add m) around cs

/-- Reads a set, after the bracket that opens it. -/
def readSet (blanks : Bool) (cs : List Char) : Option (Expression × List Char) := do
  let (s, rest) ← openSet blanks cs
  readSetRest blanks (cs.length + 1) s [] rest

/-! ### Groups -/

def flag? : Char → Option Flag
  | 'i' => some .caseless
  | 'm' => some .multiLine
  | 's' => some .dotFitsAll
  | 'U' => some .swapGreed
  | 'u' => some .unicode
  | 'R' => some .lineBreaks
  | 'x' => some .blanks
  | _ => none

/-- Reads flags up to a colon or a closing parenthesis, which is left. Each may be given once, and
so may the hyphen, after which they are switched off and which may not be the last. -/
def readFlags : (negated : Bool) → Flags → List Char → Option (Flags × List Char)
  | _, _, [] => none
  | negated, fs, c :: cs =>
    if c = ':' || c = ')' then some (fs.reverse, c :: cs)
    else if c = '-' then
      if negated || cs.head? = some ':' || cs.head? = some ')' then none
      else readFlags true fs cs
    else do
      let f ← flag? c
      if fs.any (·.1 = f) then none else readFlags negated ((f, !negated) :: fs) cs

/-- Whether a character may stand in the name of a group. -/
def isNameChar (isFirst : Bool) (c : Char) : Bool :=
  if isFirst then c = '_' || Text.isLetter c
  else c = '_' || c = '.' || c = '[' || c = ']' || Text.isLetterOrNumber c

/-- Reads the name of a group up to the mark that ends it. -/
def readName (cs : List Char) : Option (List Char × List Char) :=
  match cs.span (· ≠ '>') with
  | (c :: name, _ :: rest) =>
    if isNameChar true c && name.all (isNameChar false) then some (c :: name, rest) else none
  | _ => none

/-- What an opening parenthesis begins. -/
inductive Opening where
  | flags (flags : Flags)
  | group (group : Group)
  | named (name : List Char)

/-- Reads the front of a group, after its parenthesis. -/
def readOpening (blanks : Bool) (cs : List Char) : Option (Opening × List Char) :=
  let named (cs : List Char) := (readName cs).map fun (name, rest) => (Opening.named name, rest)
  match skip blanks cs with
  | '?' :: '=' :: _ => none
  | '?' :: '!' :: _ => none
  | '?' :: '<' :: '=' :: _ => none
  | '?' :: '<' :: '!' :: _ => none
  | '?' :: 'P' :: '<' :: cs => named cs
  | '?' :: '<' :: cs => named cs
  | '?' :: cs => do
    match ← readFlags false [] cs with
    | ([], ')' :: _) => none
    | (fs, ')' :: cs) => some (.flags fs, cs)
    | (fs, _ :: cs) => some (.group (.sets fs), cs)
    | (_, []) => none
  | cs => some (.group .captures, cs)

/-- What stands between two parentheses, as far as it was read: the branches before the last one and
the parts of the last one, each in reverse. -/
structure Body where
  branches : List Expression
  parts : List Expression

namespace Body

def empty : Body := { branches := [], parts := [] }

def add (b : Body) (e : Expression) : Body := { b with parts := e :: b.parts }

/-- Begins another branch. -/
def branch (b : Body) : Body :=
  { branches := ofParts b.parts.reverse :: b.branches, parts := [] }

def whole (b : Body) : Expression := ofBranches b.branch.branches.reverse

/-- Repeats the last part. There must be one, and it must not be a list of flags. -/
def repeatLast (b : Body) : Option Body :=
  match b.parts with
  | [] => none
  | .flags _ :: _ => none
  | e :: parts => some { b with parts := .repeated e :: parts }

end Body

/-- A group that is open: what it is, what stands before it, and whether blanks count there. -/
structure OpenGroup where
  group : Group
  before : Body
  blanks : Bool

/-- Where the reading of an expression stands. -/
structure Reading where
  body : Body
  /-- The groups around it, the innermost first. -/
  around : List OpenGroup
  /-- Whether blanks are passed over. -/
  blanks : Bool
  names : List (List Char)

namespace Reading

def add (r : Reading) (e : Expression) : Reading := { r with body := r.body.add e }

def enter (r : Reading) (group : Group) : Reading :=
  { r with
    body := .empty
    around := { group, before := r.body, blanks := r.blanks } :: r.around
    blanks := match group with
      | .captures => r.blanks
      | .sets fs => (fs.lookup .blanks).getD r.blanks }

/-- Closes the innermost group. -/
def leave (r : Reading) : Option Reading :=
  match r.around with
  | [] => none
  | g :: around =>
    some { r with
      body := g.before.add (.group g.group r.body.whole)
      around
      blanks := g.blanks }

/-- Goes on after the front of a group. A name may be given to one group only. -/
def start (r : Reading) : Opening → Option Reading
  | .flags fs => some { r.add (.flags fs) with blanks := (fs.lookup .blanks).getD r.blanks }
  | .group g => some (r.enter g)
  | .named name =>
    if r.names.contains name then none
    else some { r.enter .captures with names := name :: r.names }

end Reading

/-- A repetition takes with it the mark after it that asks for as little as possible. -/
def dropLazy : List Char → List Char
  | '?' :: cs => cs
  | cs => cs

def Escape.expression : Escape → Expression
  | .literal l => .literal l
  | .look l => .look l
  | .kind negated => .kind negated
  | .property => .property

/-- Reads an expression up to the end of the text, in at most `n` steps. -/
def readRest : (n : Nat) → Reading → List Char → Option Expression
  | 0, _, _ => none
  | n + 1, r, cs =>
    match skip r.blanks cs with
    | [] => if r.around.isEmpty then some r.body.whole else none
    | c :: cs =>
      match c with
      | '(' => do
        let (opening, cs) ← readOpening r.blanks cs
        readRest n (← r.start opening) cs
      | ')' => do readRest n (← r.leave) cs
      | '|' => readRest n { r with body := r.body.branch } cs
      | '[' => do
        let (e, cs) ← readSet r.blanks cs
        readRest n (r.add e) cs
      | '?' => do readRest n { r with body := ← r.body.repeatLast } (dropLazy cs)
      | '*' => do readRest n { r with body := ← r.body.repeatLast } (dropLazy cs)
      | '+' => do readRest n { r with body := ← r.body.repeatLast } (dropLazy cs)
      | '\x7b' => none
      | '\\' => do
        let (escape, cs) ← readEscape r.blanks cs
        readRest n (r.add escape.expression) cs
      | '.' => readRest n (r.add .anyCharacter) cs
      | '^' => readRest n (r.add (.look .line)) cs
      | '$' => readRest n (r.add (.look .line)) cs
      | c => readRest n (r.add (.literal { char := c, isByte := false })) cs

/-- The expression in a text. -/
def parse? (text : List Char) : Option Expression :=
  readRest (text.length + 1) { body := .empty, around := [], blanks := false, names := [] } text

end Switchboard.Expression
