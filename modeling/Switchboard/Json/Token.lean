import Switchboard.Json.Fault
import Switchboard.Json.Printer

/-!
# The tokens of a document

Blanks, the three words, texts and numbers. Every reader takes the characters that are left and
gives what it read together with the rest, or the place where it stopped.
-/

namespace Switchboard.Json

open Switchboard.Number

/-- A reader of the front of a text. -/
abbrev Reader (α : Type) := List Char → Except Stop (α × List Char)

/-- The four blanks that may stand between tokens. -/
def isSpace (c : Char) : Bool := c == ' ' || c == '\n' || c == '\t' || c == '\r'

def skipSpace (cs : List Char) : List Char := cs.dropWhile isSpace

/-- The remaining letters of a word. -/
def readWord {α : Type} (value : α) : List Char → Reader α
  | [], cs => .ok (value, cs)
  | _ :: _, [] => .error (Stop.here .endInValue [])
  | w :: ws, c :: cs =>
    if c = w then readWord value ws cs else .error (Stop.next .expectedIdent (c :: cs))

/-! ### Texts -/

/-- The value of a hexadecimal digit. -/
def hexValue? (c : Char) : Option Nat :=
  if '0' ≤ c ∧ c ≤ '9' then some (c.toNat - 48)
  else if 'a' ≤ c ∧ c ≤ 'f' then some (c.toNat - 87)
  else if 'A' ≤ c ∧ c ≤ 'F' then some (c.toNat - 55)
  else none

/-- The number that four hexadecimal digits stand for. -/
def hexWord? (a b c d : Char) : Option Nat := do
  let a ← hexValue? a
  let b ← hexValue? b
  let c ← hexValue? c
  let d ← hexValue? d
  pure (((a * 16 + b) * 16 + c) * 16 + d)

/-- The stop at four bytes that are no hexadecimal number, or are not there. -/
def hexStop (cs : List Char) : Stop :=
  let n := byteCount cs
  if n < 4 then { fault := .endInString, left := 0 } else { fault := .invalidEscape, left := n - 4 }

def isLeading (n : Nat) : Bool := 0xD800 ≤ n && n ≤ 0xDBFF
def isTrailing (n : Nat) : Bool := 0xDC00 ≤ n && n ≤ 0xDFFF

/-- The character that a leading and a trailing surrogate stand for. -/
def joinSurrogates (high low : Nat) : Char :=
  Char.ofNat ((high - 0xD800) * 0x400 + (low - 0xDC00) + 0x10000)

/-- The stop at a leading surrogate whose trailing one does not follow. -/
def surrogateStop : List Char → Stop
  | [] => Stop.here .endInString []
  | '\\' :: [] => Stop.here .endInString []
  | '\\' :: 'u' :: rest => hexStop rest
  | '\\' :: rest => Stop.next .unfinishedSurrogate rest
  | rest => Stop.next .unfinishedSurrogate rest

/-- The character of a one-letter escape. -/
def simpleEscape? : Char → Option Char
  | '"' => some '"'
  | '\\' => some '\\'
  | '/' => some '/'
  | 'b' => some '\x08'
  | 'f' => some '\x0c'
  | 'n' => some '\n'
  | 'r' => some '\r'
  | 't' => some '\t'
  | _ => none

/-- The characters up to the closing quote; `acc` holds those before, the last one first. -/
def readStringFrom (acc : List Char) : Reader (List Char)
  | [] => .error (Stop.here .endInString [])
  | '"' :: rest => .ok (acc.reverse, rest)
  | '\\' :: [] => .error (Stop.here .endInString [])
  | '\\' :: 'u' :: a :: b :: c :: d :: rest =>
    match hexWord? a b c d with
    | none => .error (hexStop (a :: b :: c :: d :: rest))
    | some n =>
      if isTrailing n then .error (Stop.here .loneSurrogate rest)
      else if isLeading n then
        match rest with
        | '\\' :: 'u' :: e :: f :: g :: h :: rest' =>
          match hexWord? e f g h with
          | none => .error (hexStop (e :: f :: g :: h :: rest'))
          | some m =>
            if isTrailing m then readStringFrom (joinSurrogates n m :: acc) rest'
            else .error (Stop.here .loneSurrogate rest')
        | rest => .error (surrogateStop rest)
      else readStringFrom (Char.ofNat n :: acc) rest
  | '\\' :: 'u' :: rest => .error (hexStop rest)
  | '\\' :: c :: rest =>
    match simpleEscape? c with
    | some x => readStringFrom (x :: acc) rest
    | none => .error (Stop.next .invalidEscape (c :: rest))
  | c :: rest =>
    if c.toNat < 32 then .error (Stop.next .controlCharacter (c :: rest))
    else readStringFrom (c :: acc) rest

/-- A text whose opening quote was read. -/
def readString : Reader String := fun cs => do
  let (s, rest) ← readStringFrom [] cs
  .ok (String.ofList s, rest)

/-- Passes over a text whose opening quote was read. Escapes are checked for their form alone, so
surrogates need no partner. -/
def skimString : Reader Unit
  | [] => .error (Stop.here .endInString [])
  | '"' :: rest => .ok ((), rest)
  | '\\' :: [] => .error (Stop.here .endInString [])
  | '\\' :: 'u' :: a :: b :: c :: d :: rest =>
    match hexWord? a b c d with
    | none => .error (hexStop (a :: b :: c :: d :: rest))
    | some _ => skimString rest
  | '\\' :: 'u' :: rest => .error (hexStop rest)
  | '\\' :: c :: rest =>
    match simpleEscape? c with
    | some _ => skimString rest
    | none => .error (Stop.next .invalidEscape (c :: rest))
  | c :: rest =>
    if c.toNat < 32 then .error (Stop.here .controlCharacter (c :: rest)) else skimString rest

/-! ### Numbers -/

/-- The written parts of a number: its sign, the digits before and after the point, and the sign and
digits of the exponent. -/
structure Numeral where
  negative : Bool
  whole : List Char
  fraction : List Char
  exponent : Option (Bool × List Char)
  deriving DecidableEq, Repr

/-- Whether an end of the text inside of a number is reported as such or as an invalid number. -/
inductive NumberEnd where
  | reported
  | invalid
  deriving DecidableEq

def NumberEnd.fault : NumberEnd → Fault
  | .reported => .endInValue
  | .invalid => .invalidNumber

def isDigit (c : Char) : Bool := '0' ≤ c && c ≤ '9'

/-- The digits before the point: a zero stands alone. -/
def readWhole (atEnd : NumberEnd) : Reader (List Char)
  | [] => .error (Stop.here atEnd.fault [])
  | '0' :: rest =>
    match rest with
    | c :: _ => if isDigit c then .error (Stop.next .invalidNumber rest) else .ok (['0'], rest)
    | [] => .ok (['0'], rest)
  | c :: rest =>
    if isDigit c then .ok ((c :: rest).takeWhile isDigit, rest.dropWhile isDigit)
    else .error (Stop.next .invalidNumber (c :: rest))

/-- The digits after the point, at least one; none without a point. -/
def readFraction (atEnd : NumberEnd) : Reader (List Char)
  | '.' :: rest =>
    match rest.takeWhile isDigit, rest with
    | [], [] => .error (Stop.here atEnd.fault [])
    | [], _ => .error (Stop.next .invalidNumber rest)
    | ds, _ => .ok (ds, rest.dropWhile isDigit)
  | rest => .ok ([], rest)

/-- The digits of an exponent, at least one. -/
def readExponentDigits (atEnd : NumberEnd) (negative : Bool) : Reader (Option (Bool × List Char))
  | [] => .error (Stop.here atEnd.fault [])
  | c :: rest =>
    if isDigit c then .ok (some (negative, (c :: rest).takeWhile isDigit), rest.dropWhile isDigit)
    else .error (Stop.next .invalidNumber (c :: rest))

def readExponent (atEnd : NumberEnd) : Reader (Option (Bool × List Char))
  | c :: rest =>
    if c = 'e' ∨ c = 'E' then
      match rest with
      | '+' :: rest => readExponentDigits atEnd false rest
      | '-' :: rest => readExponentDigits atEnd true rest
      | rest => readExponentDigits atEnd false rest
    else .ok (none, c :: rest)
  | [] => .ok (none, [])

/-- The parts of a number. -/
def readNumeral (atEnd : NumberEnd) : Reader Numeral := fun cs => do
  let (negative, cs) := match cs with
    | '-' :: rest => (true, rest)
    | cs => (false, cs)
  let (whole, cs) ← readWhole atEnd cs
  let (fraction, cs) ← readFraction atEnd cs
  let (exponent, cs) ← readExponent atEnd cs
  .ok ({ negative, whole, fraction, exponent }, cs)

/-- The significand that the digits continue, as far as it fits 64 bits, and the digits behind. -/
def takeSignificand (n : Nat) : List Char → Nat × List Char
  | [] => (n, [])
  | c :: cs =>
    let m := n * 10 + (c.toNat - 48)
    if m ≤ maxWord64 then takeSignificand m cs else (n, c :: cs)

/-- The double `f * 10 ^ exponent`: one product or quotient by a power of ten, after quotients by
`10 ^ 308` while the exponent is below all powers. `none` is a number beyond the doubles. -/
def scaleByPower (f : Binary64) (exponent : Int) : Option Binary64 :=
  if exponent.natAbs ≤ 308 then
    if exponent ≥ 0 then
      let g := f.mul (.powerOfTen exponent.toNat)
      if g.isFinite then some g else none
    else some (f.div (.powerOfTen exponent.natAbs))
  else if f.isZero then some f
  else if exponent ≥ 0 then none
  else scaleByPower (f.div (.powerOfTen 308)) (exponent + 308)
termination_by (-exponent).toNat
decreasing_by omega

/-- The number of leading digits with a value of at most `limit`, and that value. -/
def boundedDigits (limit : Nat) (n : Nat) : List Char → Nat × Nat
  | [] => (0, n)
  | c :: cs =>
    let m := n * 10 + (c.toNat - 48)
    if m ≤ limit then
      let (k, v) := boundedDigits limit m cs
      (k + 1, v)
    else (0, n)

/-- The greatest exponent that is computed with. -/
def maxExponent : Nat := 2147483647

/-- The number a numeral stands for. Integers that fit 64 bits are exact. All others are doubles:
the leading digits make a significand of 64 bits, the others are dropped, and a power of ten is
applied once. The fault of a number that is too large is placed by the count of digits behind. -/
def Numeral.number (n : Numeral) : Except Nat Number :=
  let (s, lost) := takeSignificand 0 n.whole
  if n.fraction = [] ∧ n.exponent = none ∧ lost = [] then
    if n.negative then
      if s = 0 ∨ (s : Int) > -minInt64 then .ok (.float (Binary64.ofInt s).neg) else .ok (.int (-s))
    else .ok (.int s)
  else
    let (s, dropped) := takeSignificand s n.fraction
    let shift : Int := lost.length - (n.fraction.length - dropped.length)
    let signed (x : Binary64) : Number := .float (if n.negative then x.neg else x)
    let scaled (e : Int) : Except Nat Number :=
      match scaleByPower (Binary64.ofInt s) e with
      | some x => .ok (signed x)
      | none => .error 0
    match n.exponent with
    | none => scaled shift
    | some (negative, ds) =>
      let (k, e) := boundedDigits maxExponent 0 ds
      if k < ds.length then
        if s ≠ 0 ∧ !negative then .error (ds.length - (k + 1)) else .ok (signed (.zero false))
      else scaled (if negative then shift - e else shift + e)

def readNumber : Reader Number := fun cs => do
  let (numeral, rest) ← readNumeral .reported cs
  match numeral.number with
  | .ok n => .ok (n, rest)
  | .error behind => .error { fault := .numberOutOfRange, left := byteCount rest + behind }

def skimNumber : Reader Unit := fun cs => do
  let (_, rest) ← readNumeral .invalid cs
  .ok ((), rest)

end Switchboard.Json
