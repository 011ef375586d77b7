import Switchboard.Shell.Records.Token

/-!
# Values of records

A value is a number or a text, and each is taken for the other where it is needed. A text that came
from the input and looks like a number is compared as one.
-/

namespace Switchboard.Shell.Records

open Switchboard.Number

inductive Value where
  /-- What a variable holds before anything is assigned to it. -/
  | empty
  | number (x : Float)
  | text (text : Chars)
  /-- A text that came from the input. -/
  | input (text : Chars)

instance : Inhabited Value := ⟨.empty⟩

/-! ### Numbers in texts -/

/-- The double that a machine has, exactly. -/
def doubleOf (x : Float) : Binary64 :=
  let bits := x.toBits.toNat
  let negative := bits / 9223372036854775808 = 1
  let biased := bits / 4503599627370496 % 2048
  let fraction := bits % 4503599627370496
  if biased = 2047 then if fraction = 0 then .infinite negative else .nan
  else if biased = 0 then .finite negative fraction (-1074)
  else .finite negative (fraction + 4503599627370496) ((biased : Int) - 1075)

/-- The front of a text that is a number without a sign, and what follows it. -/
def splitUnsigned (cs : Chars) : Option (Float × Chars) :=
  match cs with
  | '0' :: x :: d :: rest =>
    if (x = 'x' || x = 'X') && isHexDigit d then
      let (digits, rest) := (d :: rest).span isHexDigit
      some (floatOf (.ofRatio false (baseValue 16 digits) 1), rest)
    else some (Token.readNumber cs)
  | c :: rest =>
    if c.isDigit || (c = '.' && (rest.head?.map Char.isDigit).getD false) then
      some (Token.readNumber cs)
    else
      let folded := (cs.take 3).map Char.toLower
      if folded = ['i', 'n', 'f'] then some (1.0 / 0.0, cs.drop 3)
      else if folded = ['n', 'a', 'n'] then some (0.0 / 0.0, cs.drop 3)
      else none
  | [] => none

/-- The front of a text that is a number, after blanks, and what follows it. -/
def splitNumber (cs : Chars) : Option (Float × Chars) :=
  match cs.dropWhile isSpace with
  | '-' :: rest => (splitUnsigned rest).map fun (x, rest) => (-x, rest)
  | '+' :: rest => splitUnsigned rest
  | rest => splitUnsigned rest

/-- The number that a text looks like, with blanks around it. -/
def lookedNumber? (cs : Chars) : Option Float := do
  let (x, rest) ← splitNumber cs
  let plain := (cs.dropWhile fun c => isSpace c || c = '-' || c = '+').head?
  if rest.all isSpace && plain.any fun c => c.isDigit || c = '.' then some x else none

/-- The digits of a whole number, as far as numbers are whole. -/
def wholeChars? (x : Float) : Option Chars :=
  if x == x.floor && -9223372036854775808.0 ≤ x && x ≤ 18446744073709551616.0 then
    some (if x < 0 then decimalChars x.toInt64.toInt else decimalChars x.toUInt64.toNat)
  else none

/-- The whole part of a number, as far as numbers are whole. -/
def wholePart (x : Float) : Int :=
  if x < 0 then max x.toInt64.toInt (minInteger + 1) else x.toUInt64.toNat

namespace Value

def toNumber : Value → Float
  | .empty => 0
  | .number x => x
  | .text cs => ((splitNumber cs).map Prod.fst).getD 0
  | .input cs => ((splitNumber cs).map Prod.fst).getD 0

/-- The number that a value counts as in comparisons, if it does. -/
def asNumber? : Value → Option Float
  | .empty => some 0
  | .number x => some x
  | .text _ => none
  | .input cs => lookedNumber? cs

end Value

/-! ### Formats -/

/-- A number in a conversion of a format. -/
def convertNumber (c : Conversion) (x : Float) : Chars :=
  if x.isNaN then pad c false ['-'] ['n', 'a', 'n'] else c.float (doubleOf x)

/-- A number as text: whole numbers have all their digits, and others the conversion of a format. -/
def numberText (format : Chars) (x : Float) : Chars :=
  match wholeChars? x, format with
  | some digits, _ => digits
  | none, '%' :: rest =>
    match readConversion rest with
    | some (c, after) =>
      if ['e', 'E', 'f', 'F', 'g', 'G'].contains c.letter then convertNumber c x ++ after
      else c.signed (wholePart x) ++ after
    | none => format
  | none, format => format

namespace Value

/-- A value as text, where numbers have a format. -/
def toText (format : Chars) : Value → Chars
  | .empty => []
  | .number x => numberText format x
  | .text cs => cs
  | .input cs => cs

def isTrue : Value → Bool
  | .empty => false
  | .number x => x != 0
  | .text cs => !cs.isEmpty
  | .input cs => ((lookedNumber? cs).map fun x => x != 0).getD !cs.isEmpty

/-- The order of two values: as numbers, if both of them are, or else as texts. -/
def compare (format : Chars) (comparison : Comparison) (a b : Value) : Bool :=
  match a.asNumber?, b.asNumber? with
  | some x, some y =>
    match comparison with
    | .less => x < y
    | .atMost => x ≤ y
    | .equal => x == y
    | .unequal => x != y
    | .greater => y < x
    | .atLeast => y ≤ x
  | _, _ =>
    let s := String.ofList (a.toText format)
    let t := String.ofList (b.toText format)
    match comparison with
    | .less => s < t
    | .atMost => !decide (t < s)
    | .equal => s = t
    | .unequal => s ≠ t
    | .greater => t < s
    | .atLeast => !decide (s < t)

/-- The character that a value is written as. -/
def toChar (v : Value) : Char :=
  match v with
  | .text cs => cs.headD '\x00'
  | v =>
    match v.asNumber?, v with
    | some x, _ => byteChar ((wholePart x) % 256).toNat
    | none, .input cs => cs.headD '\x00'
    | none, _ => '\x00'

end Value

/-- A value in a conversion of a format; there is no text if there is no such conversion. -/
def convertValue (format : Chars) (c : Conversion) (v : Value) : Option Chars :=
  match c.letter with
  | 's' =>
    let text := v.toText format
    some (pad c false [] ((c.precision.map fun n => text.take n).getD text))
  | 'c' => some (pad c false [] [v.toChar])
  | 'd' => some (c.signed (wholePart v.toNumber))
  | 'i' => some (c.signed (wholePart v.toNumber))
  | 'o' => some (c.unsigned 8 false (wholePart v.toNumber))
  | 'x' => some (c.unsigned 16 false (wholePart v.toNumber))
  | 'X' => some (c.unsigned 16 true (wholePart v.toNumber))
  | 'u' => some (c.unsigned 10 false (wholePart v.toNumber))
  | letter =>
    if ['e', 'E', 'f', 'F', 'g', 'G'].contains letter then some (convertNumber c v.toNumber)
    else none

/-- A conversion with the width and the precision that arguments give, if they are to, and the other
arguments. -/
def completeConversion (c : Conversion) (arguments : List Value) :
    Option (Conversion × List Value) := do
  let (c, arguments) ← if !c.given then some (c, arguments)
    else match arguments with
      | v :: rest =>
        let width := wholePart v.toNumber
        some ({ c with left := c.left || width < 0, width := width.natAbs }, rest)
      | [] => none
  if !c.givenPrecision then some (c, arguments)
  else match arguments with
    | v :: rest =>
      let precision := wholePart v.toNumber
      some ({ c with precision := if precision < 0 then none else some precision.toNat }, rest)
    | [] => none

/-- The conversion after a percent sign, without the letters that say how long a number is. -/
def readPlainConversion (cs : Chars) : Option (Conversion × Chars) := do
  let (c, after) ← readConversion cs
  let isLength (c : Char) := c = 'l' || c = 'h' || c = 'L' || c = 'q'
  if !isLength c.letter then some (c, after)
  else match after.dropWhile isLength with
    | letter :: after => some ({ c with letter }, after)
    | [] => none

/-- Values in a format, in at most `n` steps. The answer says whether all went well. -/
def formatValues (format : Chars) : (n : Nat) → Chars → List Value → Chars × Bool
  | 0, _, _ => ([], true)
  | n + 1, cs, arguments =>
    let add (text rest : Chars) (arguments : List Value) : Chars × Bool :=
      let (others, good) := formatValues format n rest arguments
      (text ++ others, good)
    match cs with
    | [] => ([], true)
    | '%' :: '%' :: rest => add ['%'] rest arguments
    | ['%'] => (['%'], true)
    | '%' :: rest =>
      match readPlainConversion rest with
      | none => ([], false)
      | some (c, after) =>
        match completeConversion c arguments with
        | some (c, v :: others) =>
          match convertValue format c v with
          | some text => add text after others
          | none => ([], false)
        | _ => ([], false)
    | c :: rest => add [c] rest arguments

end Switchboard.Shell.Records
