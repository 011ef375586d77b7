import Switchboard.Shell.Streams

/-!
# Bytes written out

The programs `od`, which shows bytes as numbers or names, and `base64` and `base32`, which write
bytes in letters that pass everywhere, and read them back.
-/

namespace Switchboard.Shell

/-! ### Dumps -/

/-- How bytes are shown. -/
inductive DumpKind where
  | signed
  | unsigned
  | octal
  | hexadecimal
  /-- Characters, with escapes for those that cannot be seen. -/
  | escaped
  /-- Characters, with names for those that cannot be seen. -/
  | named
  deriving DecidableEq, Repr

/-- One of the rows in which a block of bytes is shown. -/
structure DumpRow where
  kind : DumpKind
  /-- How many bytes a field takes in. -/
  size : Nat
  /-- Whether the bytes follow as text. -/
  hasText : Bool
  deriving DecidableEq, Repr

namespace DumpRow

/-- The digits that the numbers of a field have at most. -/
def digits (r : DumpRow) : Nat :=
  let most := Nat.pow 256 r.size
  match r.kind with
  | .signed => (Nat.toDigits 10 (most / 2)).length
  | .unsigned => (Nat.toDigits 10 (most - 1)).length
  | .octal => (Nat.toDigits 8 (most - 1)).length
  | .hexadecimal => 2 * r.size
  | _ => 3

/-- How wide a field is. -/
def width (r : DumpRow) : Nat := if r.kind = .signed then r.digits + 1 else r.digits

/-- The names of the bytes that cannot be seen. -/
def byteNames : List String :=
  ["nul", "soh", "stx", "etx", "eot", "enq", "ack", "bel", "bs", "ht", "nl", "vt", "ff", "cr", "so",
   "si", "dle", "dc1", "dc2", "dc3", "dc4", "nak", "syn", "etb", "can", "em", "sub", "esc", "fs",
   "gs", "rs", "us", "sp"]

/-- The letters of escapes, by the bytes that they stand for. -/
def escapeOf? (byte : Nat) : Option Char :=
  [(0, '0'), (7, 'a'), (8, 'b'), (9, 't'), (10, 'n'), (11, 'v'), (12, 'f'), (13, 'r')].lookup byte

/-- What a field shows. -/
def field (r : DumpRow) (bytes : List Nat) : Chars :=
  let value := bytes.reverse.foldl (fun n b => 256 * n + b) 0
  let filled (digits : Chars) : Chars := List.replicate (r.digits - digits.length) '0' ++ digits
  match r.kind with
  | .signed =>
    let most := Nat.pow 256 r.size
    decimalChars (if most / 2 ≤ value then (value : Int) - most else value)
  | .unsigned => decimalChars value
  | .octal => filled (Nat.toDigits 8 value)
  | .hexadecimal => filled (Nat.toDigits 16 value)
  | .escaped =>
    match escapeOf? value with
    | some letter => ['\\', letter]
    | none =>
      if 32 ≤ value && value < 127 then [Char.ofNat value] else filled (Nat.toDigits 8 value)
  | .named =>
    let low := value % 128
    if low = 127 then "del".toList
    else (byteNames[low]?).elim [Char.ofNat low] String.toList

/-- A block of bytes as a row. `whole` is the size of a full block, `room` how many characters all
its fields take in. -/
def line (r : DumpRow) (whole room : Nat) (bytes : List Nat) : Chars :=
  let fields := whole / r.size
  let pad := room - fields * r.width
  let count := fields - (whole - bytes.length) / r.size
  let shown := (List.range count).map fun i =>
    let part := (bytes.drop (i * r.size)).take r.size
    let part := part ++ List.replicate (r.size - part.length) 0
    let space := pad * (fields - i) / fields - pad * (fields - i - 1) / fields
    alignRight (space + r.width) (r.field part)
  let text := if r.hasText then
      List.replicate ((whole - bytes.length) / r.size * (r.width + 1)) ' ' ++ "  >".toList ++
        bytes.map (fun b => if 32 ≤ b && b < 127 then Char.ofNat b else '.') ++ ['<']
    else []
  shown.flatten ++ text

end DumpRow

/-- How a dump names places. -/
structure DumpPlaces where
  base : Nat
  width : Nat
  /-- Whether places are shown at all. -/
  areShown : Bool

def DumpPlaces.show (p : DumpPlaces) (place : Nat) : Chars :=
  if !p.areShown then []
  else
    let digits := Nat.toDigits p.base place
    List.replicate (p.width - digits.length) '0' ++ digits

/-- What a dump looks like. -/
structure Dump where
  rows : List DumpRow
  places : DumpPlaces
  whole : Nat
  /-- Whether blocks that are alike are shown each. -/
  showsAll : Bool

namespace Dump

def block (d : Dump) (place : Nat) (bytes : List Nat) : Chars :=
  let room := (d.rows.map fun r => (r.width + 1) * (d.whole / r.size)).foldl max 0
  let blank := if d.places.areShown then List.replicate d.places.width ' ' else []
  (d.rows.zipIdx.map fun (r, i) =>
    (if i = 0 then d.places.show place else blank) ++ r.line d.whole room bytes ++ ['\n']).flatten

/-- Shows blocks one after the other, in at most `n` blocks: those that are like the one before are
marked by a star. -/
def blocks (d : Dump) : (n : Nat) → (place : Nat) → (last : Option (List Nat)) →
    (isStarred : Bool) → List Nat → List Chars
  | 0, _, _, _, _ => []
  | n + 1, place, last, isStarred, bytes =>
    if bytes.isEmpty then
      [if d.places.areShown then d.places.show place ++ ['\n'] else []]
    else
      let front := bytes.take d.whole
      let next := place + front.length
      if !d.showsAll && last = some front && front.length = d.whole then
        (if isStarred then [] else ['*', '\n']) ::
          d.blocks n next last true (bytes.drop d.whole)
      else d.block place front :: d.blocks n next (some front) false (bytes.drop d.whole)

end Dump

/-- The size that letters or digits after a kind give. -/
def readSize : Chars → Option (Nat × Chars)
  | 'C' :: rest => some (1, rest)
  | 'S' :: rest => some (2, rest)
  | 'I' :: rest => some (4, rest)
  | 'L' :: rest => some (8, rest)
  | text =>
    match text.span Char.isDigit with
    | ([], rest) => some (4, rest)
    | (digits, rest) =>
      let size := baseValue 10 digits
      if [1, 2, 4, 8].contains size then some (size, rest) else none

/-- The rows that a text such as `x1z` asks for, read in at most `n` steps. -/
def readRows : (n : Nat) → Chars → Option (List DumpRow)
  | 0, _ => none
  | n + 1, text => do
    match text with
    | [] => some []
    | letter :: rest =>
      let kind ← [('d', DumpKind.signed), ('u', .unsigned), ('o', .octal), ('x', .hexadecimal),
        ('c', .escaped), ('a', .named)].lookup letter
      let (size, rest) ← if letter = 'c' || letter = 'a' then some (1, rest) else readSize rest
      let (hasText, rest) := match rest with
        | 'z' :: rest => (true, rest)
        | rest => (false, rest)
      return ⟨kind, size, hasText⟩ :: (← readRows n rest)

/-- The rows that an option asks for. -/
def rowsOfOption? : Char × Chars → Option (List DumpRow)
  | ('t', text) => readRows (text.length + 1) text
  | ('a', _) => some [⟨.named, 1, false⟩]
  | ('b', _) => some [⟨.octal, 1, false⟩]
  | ('c', _) => some [⟨.escaped, 1, false⟩]
  | ('d', _) => some [⟨.unsigned, 2, false⟩]
  | ('i', _) => some [⟨.signed, 4, false⟩]
  | ('l', _) => some [⟨.signed, 8, false⟩]
  | ('o', _) => some [⟨.octal, 2, false⟩]
  | ('s', _) => some [⟨.signed, 2, false⟩]
  | ('x', _) => some [⟨.hexadecimal, 2, false⟩]
  | _ => some []

def dumpOptions : OptionTable where
  plain := "abcdilosvx".toList
  valued := ['A', 'j', 'N', 't']
  attached := ['w']
  long := [("address-radix", 'A'), ("skip-bytes", 'j'), ("read-bytes", 'N'), ("format", 't'),
    ("output-duplicates", 'v'), ("width", 'w')]

/-- A count of bytes, be it written in tens, eights or sixteens. -/
def byteCount? (text : Chars) : Option Nat :=
  match text with
  | '0' :: 'x' :: digits => if digits.all isHexDigit then some (baseValue 16 digits) else none
  | '0' :: digits => if digits.all isOctal then some (baseValue 8 digits) else none
  | text => count? text

def odProgram (arguments : List Chars) : Run Unit :=
  withOptions "od" dumpOptions 1 arguments fun o => do
    let rows := (o.given.mapM rowsOfOption?).map List.flatten
    let places : Option DumpPlaces := match (o.value? 'A').getD ['o'] with
      | 'o' :: _ => some ⟨8, 7, true⟩
      | 'd' :: _ => some ⟨10, 7, true⟩
      | 'x' :: _ => some ⟨16, 6, true⟩
      | 'n' :: _ => some ⟨8, 0, false⟩
      | _ => none
    let skipped := byteCount? ((o.value? 'j').getD ['0'])
    match rows, places, skipped with
    | some rows, some places, some skipped => do
      let rows := if rows.isEmpty then [⟨.octal, 2, false⟩] else rows
      let least := (rows.map DumpRow.size).foldl max 1
      let whole := match o.value? 'w' with
        | none => 16
        | some text =>
          let asked := if text.isEmpty then 32 else natAtFront text
          if asked = 0 || asked % least ≠ 0 then least else asked
      setStatus 0
      let text ← readFiles "od" 1 o.operands
      let text := text.drop skipped
      let text := match (o.value? 'N').bind byteCount? with
        | some count => text.take count
        | none => text
      let d : Dump := ⟨rows, places, whole, o.has 'v'⟩
      let bytes := text.map Char.toNat
      writeOut (d.blocks (bytes.length + 2) skipped none false bytes).flatten
    | _, _, _ => setStatus 1

/-! ### Letters that pass everywhere -/

/-- How bytes are written in letters: the letters, how many bits each of them holds, and how many
bytes and letters make a group. -/
structure LetterCode where
  letters : Array Char
  bits : Nat
  bytes : Nat
  count : Nat

namespace LetterCode

def base64 : LetterCode where
  letters := "ABCDEFGHIJKLMNOPQRSTUVWXYZabcdefghijklmnopqrstuvwxyz0123456789+/".toList.toArray
  bits := 6
  bytes := 3
  count := 4

def base32 : LetterCode where
  letters := "ABCDEFGHIJKLMNOPQRSTUVWXYZ234567".toList.toArray
  bits := 5
  bytes := 5
  count := 8

/-- The letters of one group of bytes; a group that is not full is filled up. -/
def encodeGroup (c : LetterCode) (group : Chars) : Chars :=
  let value := group.foldl (fun n b => 256 * n + b.toNat) 0
  let value := value * Nat.pow 256 (c.bytes - group.length)
  let used := (group.length * 8 + c.bits - 1) / c.bits
  (List.range c.count).map fun i =>
    if used ≤ i then '='
    else c.letters.getD (value / Nat.pow 2 (c.bits * (c.count - 1 - i)) % Nat.pow 2 c.bits) '='

/-- The letters of a text, in at most `n` groups. -/
def encode (c : LetterCode) : (n : Nat) → Chars → Chars
  | 0, _ => []
  | n + 1, text =>
    if text.isEmpty then [] else c.encodeGroup (text.take c.bytes) ++ c.encode n (text.drop c.bytes)

/-- The bytes of one group of letters, and whether it is right. -/
def decodeGroup (c : LetterCode) (group : Chars) : Chars × Bool :=
  let used := group.takeWhile (· ≠ '=')
  let values := used.map fun l => c.letters.idxOf? l
  let known := values.takeWhile Option.isSome
  let value := known.foldl (fun n v => Nat.pow 2 c.bits * n + v.getD 0) 0
  let whole := value * Nat.pow 2 (c.bits * (c.count - known.length))
  let length := known.length * c.bits / 8
  let bytes := (List.range length).map fun i =>
    byteChar (whole / Nat.pow 256 (c.bytes - 1 - i))
  let isRight := known.length = used.length && group.length = c.count &&
    (group.drop used.length).all (· = '=') && !used.isEmpty &&
    (length * 8 + c.bits - 1) / c.bits = used.length
  (bytes, isRight)

/-- The bytes of a text in letters, in at most `n` groups, and whether all of it is right. -/
def decode (c : LetterCode) : (n : Nat) → Chars → Chars × Bool
  | 0, _ => ([], true)
  | n + 1, text =>
    if text.isEmpty then ([], true)
    else
      let (bytes, isRight) := c.decodeGroup (text.take c.count)
      if !isRight then (bytes, false)
      else
        let (more, isRight) := c.decode n (text.drop c.count)
        (bytes ++ more, isRight)

end LetterCode

/-- A text in lines of a width, in at most `n` lines. -/
def wrapText (width : Nat) : (n : Nat) → Chars → Chars
  | 0, text => text
  | n + 1, text =>
    if text.isEmpty then [] else text.take width ++ '\n' :: wrapText width n (text.drop width)

/-- Writes its input in letters, or reads it back. -/
def letterProgram (name : String) (c : LetterCode) (arguments : List Chars) : Run Unit :=
  withOptions name { plain := ['d', 'i'], valued := ['w'], long :=
    [("decode", 'd'), ("ignore-garbage", 'i'), ("wrap", 'w')] } 1 arguments fun o => do
    match count? ((o.value? 'w').getD "76".toList) with
    | none => setStatus 1
    | some width => do
      setStatus 0
      match ← fromFile name 1 (o.operands.headD ['-']) readAllInput with
      | none => return ()
      | some text =>
        if o.has 'd' then
          let kept := text.filter fun l =>
            l ≠ '\n' && (!o.has 'i' || l = '=' || c.letters.contains l)
          let (bytes, isRight) := c.decode kept.length kept
          writeOut bytes
          if !isRight then setStatus 1
        else
          let letters := c.encode text.length text
          writeOut (if width = 0 then letters else wrapText width letters.length letters)

end Switchboard.Shell
