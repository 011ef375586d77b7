import Switchboard.Number.Reading
import Switchboard.Shell.Syntax

/-!
# Formatted text

The texts that `echo` and `printf` write: escapes, and a format that is used again as long as there
are arguments.
-/

namespace Switchboard.Shell

open Switchboard.Number

/-! ### Numbers -/

def isOctal (c : Char) : Bool := '0' ≤ c && c ≤ '7'

/-- The value of a digit of any base up to 16. -/
def digitValue (c : Char) : Nat :=
  if c.isDigit then c.toNat - '0'.toNat else c.toLower.toNat - 'a'.toNat + 10

def baseValue (base : Nat) (cs : Chars) : Nat := cs.foldl (fun n c => base * n + digitValue c) 0

def isHexDigit (c : Char) : Bool :=
  c.isDigit || ('a' ≤ c.toLower && c.toLower ≤ 'f')

/-- Whether a character is a blank of any kind. -/
def isSpace (c : Char) : Bool := c = ' ' || ('\t' ≤ c && c ≤ '\r')

def maxInteger : Int := 9223372036854775807

def minInteger : Int := -9223372036854775808

/-- The digits of a number at the front, hexadecimal, octal or decimal, with what follows them. -/
def splitNatural : Chars → Option (Nat × Chars)
  | '0' :: x :: d :: rest =>
    if (x = 'x' || x = 'X') && isHexDigit d then
      let (digits, rest) := (d :: rest).span isHexDigit
      some (baseValue 16 digits, rest)
    else
      let (digits, rest) := ('0' :: x :: d :: rest).span isOctal
      some (baseValue 8 digits, rest)
  | '0' :: rest =>
    let (digits, rest) := rest.span isOctal
    some (baseValue 8 digits, rest)
  | cs =>
    match cs.span Char.isDigit with
    | ([], _) => none
    | (digits, rest) => some (baseValue 10 digits, rest)

/-- The digits of a decimal number at the front, with what follows them. -/
def splitDecimal (cs : Chars) : Option (Nat × Chars) :=
  match cs.span Char.isDigit with
  | ([], _) => none
  | (digits, rest) => some (baseValue 10 digits, rest)

/-- The integer at the front of a text, after blanks, with what follows it. -/
def splitInteger (natural : Chars → Option (Nat × Chars)) (cs : Chars) : Option (Int × Chars) :=
  match cs.dropWhile isSpace with
  | '-' :: rest => (natural rest).map fun (n, rest) => (-(n : Int), rest)
  | '+' :: rest => (natural rest).map fun (n, rest) => ((n : Int), rest)
  | rest => (natural rest).map fun (n, rest) => ((n : Int), rest)

/-- The integer that a text is, with blanks around it. -/
def integerOf? (natural : Chars → Option (Nat × Chars)) (cs : Chars) : Option Int := do
  let (n, rest) ← splitInteger natural cs
  if rest.all isSpace && minInteger ≤ n && n ≤ maxInteger then some n else none

/-- The decimal integer that a text is. -/
def decimal? (cs : Chars) : Option Int := integerOf? splitDecimal cs

/-- The number of no sign that an argument is, up to the greatest of a small word. -/
def count? (cs : Chars) : Option Nat := do
  let n ← decimal? cs
  if 0 ≤ n && n ≤ 2147483647 then some n.toNat else none

/-- The number at the front of a text, hexadecimal, octal or decimal, or nothing worth. -/
def natAtFront (cs : Chars) : Nat := ((splitNatural cs).map Prod.fst).getD 0

/-- The integer at the front of a text, or nothing worth. -/
def intAtFront (cs : Chars) : Int := ((splitInteger splitNatural cs).map Prod.fst).getD 0

def decimalChars (n : Int) : Chars := (toString n).toList

/-! ### Escapes -/

/-- The character of an escape that is one letter. -/
def escapeLetter? : Char → Option Char
  | 'a' => some '\x07'
  | 'b' => some '\x08'
  | 'e' => some '\x1b'
  | 'f' => some '\x0c'
  | 'n' => some '\n'
  | 'r' => some '\r'
  | 't' => some '\t'
  | 'v' => some '\x0b'
  | '\\' => some '\\'
  | _ => none

def byteChar (n : Nat) : Char := Char.ofNat (n % 256)

/-- The character of an escape after its backslash: a letter, or up to three octal digits; any other
escape is a backslash that stands for itself. -/
def readEscaped : Chars → Char × Chars
  | [] => ('\\', [])
  | c :: rest =>
    if isOctal c then
      let digits := ((c :: rest).take 3).takeWhile isOctal
      (byteChar (baseValue 8 digits), (c :: rest).drop digits.length)
    else match escapeLetter? c with
      | some d => (d, rest)
      | none => ('\\', c :: rest)

/-- An argument with its escapes done. Octal numbers may have a zero in front, and `\c` ends
everything, which `false` says. -/
def unescape : (fuel : Nat) → Chars → Chars × Bool
  | 0, cs => (cs, true)
  | n + 1, cs =>
    match cs with
    | [] => ([], true)
    | '\\' :: 'c' :: _ => ([], false)
    | '\\' :: rest =>
      let rest := match rest with
        | '0' :: d :: rest => if isOctal d then d :: rest else '0' :: d :: rest
        | rest => rest
      let (c, rest) := readEscaped rest
      let (text, more) := unescape n rest
      (c :: text, more)
    | c :: rest =>
      let (text, more) := unescape n rest
      (c :: text, more)

/-! ### Conversions -/

/-- How a value is written in a format. -/
structure Conversion where
  left : Bool
  zeros : Bool
  plus : Bool
  blank : Bool
  /-- Whether the base or the point is shown. -/
  marked : Bool
  /-- Whether an argument gives the width. -/
  given : Bool
  width : Nat
  /-- Whether an argument gives the precision. -/
  givenPrecision : Bool
  precision : Option Nat
  letter : Char
  deriving Repr

def pad (c : Conversion) (zeros : Bool) (sign body : Chars) : Chars :=
  let missing := c.width - (sign.length + body.length)
  if c.left then sign ++ body ++ List.replicate missing ' '
  else if zeros then sign ++ List.replicate missing '0' ++ body
  else List.replicate missing ' ' ++ sign ++ body

def Conversion.sign (c : Conversion) (negative : Bool) : Chars :=
  if negative then ['-'] else if c.plus then ['+'] else if c.blank then [' '] else []

/-- The digits of a natural number, with zeros up to the precision. -/
def Conversion.digits (c : Conversion) (base : Nat) (capitals : Bool) (value : Nat) : Chars :=
  let digits := if value = 0 && c.precision = some 0 then [] else Nat.toDigits base value
  let digits := if capitals then digits.map Char.toUpper else digits
  List.replicate ((c.precision.getD 0) - digits.length) '0' ++ digits

def Conversion.signed (c : Conversion) (value : Int) : Chars :=
  pad c (c.zeros && c.precision.isNone) (c.sign (value < 0)) (c.digits 10 false value.natAbs)

/-- A number without a sign; a negative one is taken as what it is in a word of 64 bits. -/
def Conversion.unsigned (c : Conversion) (base : Nat) (capitals : Bool) (value : Int) : Chars :=
  let value := (value % 18446744073709551616).toNat
  let digits := c.digits base capitals value
  let mark := if c.marked && base = 16 && value ≠ 0 then
      if capitals then ['0', 'X'] else ['0', 'x']
    else if c.marked && base = 8 && digits.head? ≠ some '0' then ['0'] else []
  pad c (c.zeros && c.precision.isNone) mark digits

/-! ### Floating point -/

/-- A quotient with a number of digits after the point, the last one rounded. -/
def fixedDigits (num den places : Nat) (marked : Bool) : Chars :=
  let digits := Nat.toDigits 10 (Binary64.roundRatio (num * Nat.pow 10 places) den)
  let digits := List.replicate (places + 1 - digits.length) '0' ++ digits
  let whole := digits.take (digits.length - places)
  let fraction := digits.drop (digits.length - places)
  whole ++ (if fraction.isEmpty && !marked then [] else '.' :: fraction)

/-- The greatest power of ten that is not above a quotient, found in at most `n` steps. -/
def powerBelow (num den : Nat) : (n : Nat) → (guess : Int) → Int
  | 0, k => k
  | n + 1, k =>
    let (a, b) := (num * Nat.pow 10 (-k).toNat, den * Nat.pow 10 k.toNat)
    if a < b then powerBelow num den n (k - 1)
    else if 10 * b ≤ a then powerBelow num den n (k + 1)
    else k

/-- The rounded digits of a quotient, one of them before the point, and its power of ten. -/
def scientificDigits (num den places : Nat) : Nat × Int :=
  if num = 0 then (0, 0)
  else
    let guess : Int := ((Nat.log2 num : Int) - (Nat.log2 den : Int)) * 3 / 10
    let k := powerBelow num den 700 guess
    let digits := Binary64.roundRatio (num * Nat.pow 10 (-k).toNat * Nat.pow 10 places)
      (den * Nat.pow 10 k.toNat)
    if digits = Nat.pow 10 (places + 1) then (digits / 10, k + 1) else (digits, k)

/-- An exponent with a sign and at least two digits. -/
def exponentChars (letter : Char) (k : Int) : Chars :=
  let digits := Nat.toDigits 10 k.natAbs
  letter :: (if k < 0 then '-' else '+') :: List.replicate (2 - digits.length) '0' ++ digits

def scientific (num den places : Nat) (marked : Bool) (letter : Char) : Chars :=
  let (digits, k) := scientificDigits num den places
  fixedDigits digits (Nat.pow 10 places) places marked ++ exponentChars letter k

/-- A number without the zeros at its end, and without a point before nothing. -/
def dropZeros (cs : Chars) : Chars :=
  if cs.contains '.' then
    let kept := cs.reverse.dropWhile (· = '0')
    (if kept.head? = some '.' then kept.drop 1 else kept).reverse
  else cs

/-- The shorter of the two forms of a number. -/
def general (num den precision : Nat) (marked : Bool) (letter : Char) : Chars :=
  let precision := max precision 1
  let (digits, k) := scientificDigits num den (precision - 1)
  let trim (cs : Chars) := if marked then cs else dropZeros cs
  if -4 ≤ k && k < precision then
    trim (fixedDigits num den ((precision : Int) - 1 - k).toNat marked)
  else
    trim (fixedDigits digits (Nat.pow 10 (precision - 1)) (precision - 1) marked) ++
      exponentChars letter k

def Conversion.float (c : Conversion) (x : Binary64) : Chars :=
  let capitals := c.letter.isUpper
  let precision := c.precision.getD 6
  let spelled (cs : Chars) := if capitals then cs.map Char.toUpper else cs
  match x with
  | .nan => pad c false (c.sign false) (spelled ['n', 'a', 'n'])
  | .infinite negative => pad c false (c.sign negative) (spelled ['i', 'n', 'f'])
  | .finite negative m e =>
    let (num, den) := Binary64.scaleRatio m 1 (-e)
    let letter := if capitals then 'E' else 'e'
    let body :=
      if c.letter = 'f' || c.letter = 'F' then fixedDigits num den precision c.marked
      else if c.letter = 'e' || c.letter = 'E' then scientific num den precision c.marked letter
      else general num den precision c.marked letter
    pad c c.zeros (c.sign negative) body

/-! ### Arguments -/

/-- What is wrong with an argument that is to be a number. -/
def expectedNumber (cs : Chars) : Chars := cs ++ ": expected numeric value".toList

def notConverted (cs : Chars) : Chars := cs ++ ": not completely converted".toList

def outOfRange (cs : Chars) : Chars := cs ++ ": Numerical result out of range".toList

/-- The value of a numeric argument, and what is wrong with it: a quote before a character stands
for its code. -/
def numericArgument (low high : Int) : Chars → Int × Option Chars
  | [] => (0, none)
  | ['\''] => (0, none)
  | ['"'] => (0, none)
  | '\'' :: c :: _ => (c.toNat, none)
  | '"' :: c :: _ => (c.toNat, none)
  | cs =>
    match splitInteger splitNatural cs with
    | none => (0, some (expectedNumber cs))
    | some (n, rest) =>
      (max low (min high n),
        if n < low || high < n then some (outOfRange cs)
        else if rest.isEmpty then none else some (notConverted cs))

/-- The longest front of a text that is a number, in at most `n` steps. -/
def floatAtFront? : (n : Nat) → Chars → Option Binary64
  | 0, _ => none
  | n + 1, cs =>
    match Binary64.parse? (String.ofList (cs.take n)) with
    | some x => some x
    | none => floatAtFront? n cs

/-- The value of an argument that may have a point, and what is wrong with it. -/
def floatArgument : Chars → Binary64 × Option Chars
  | [] => (.zero false, none)
  | '\'' :: c :: _ => (.ofInt c.toNat, none)
  | '"' :: c :: _ => (.ofInt c.toNat, none)
  | cs =>
    let number := cs.dropWhile isSpace
    match Binary64.parse? (String.ofList number), floatAtFront? number.length number with
    | some x, _ => (x, none)
    | none, some x => (x, some (notConverted cs))
    | none, none => (.zero false, some (expectedNumber cs))

/-- What a conversion makes of an argument. -/
inductive Converted where
  /-- A text, and what is wrong with the argument. -/
  | text (text : Chars) (fault : Option Chars)
  /-- A text after which nothing follows. -/
  | last (text : Chars)
  /-- There is no such conversion. -/
  | unknown

def Conversion.apply (c : Conversion) (argument : Chars) : Converted :=
  let text (cs : Chars) := pad c false [] (match c.precision with
    | some p => cs.take p
    | none => cs)
  let unsigned (base : Nat) (capitals : Bool) : Converted :=
    let (value, fault) := numericArgument (-18446744073709551615) 18446744073709551615 argument
    .text (c.unsigned base capitals value) fault
  match c.letter with
  | 's' => .text (text argument) none
  | 'c' => .text (pad c false [] [argument.headD '\x00']) none
  | 'b' =>
    let (cs, more) := unescape (argument.length + 1) argument
    if more then .text (text cs) none else .last (text cs)
  | 'u' => unsigned 10 false
  | 'o' => unsigned 8 false
  | 'x' => unsigned 16 false
  | 'X' => unsigned 16 true
  | letter =>
    if letter = 'd' || letter = 'i' then
      let (value, fault) := numericArgument minInteger maxInteger argument
      .text (c.signed value) fault
    else if ['e', 'E', 'f', 'F', 'g', 'G'].contains letter then
      let (value, fault) := floatArgument argument
      .text (c.float value) fault
    else .unknown

/-- The conversion after a percent sign. -/
def readConversion (cs : Chars) : Option (Conversion × Chars) :=
  let (flags, rest) := cs.span fun c => c = '-' || c = '0' || c = '+' || c = ' ' || c = '#'
  let (given, width, rest) := match rest with
    | '*' :: rest => (true, [], rest)
    | rest => (false, rest.span Char.isDigit)
  let (givenPrecision, precision, rest) := match rest with
    | '.' :: '*' :: rest => (true, none, rest)
    | '.' :: rest =>
      let (digits, rest) := rest.span Char.isDigit
      (false, some (baseValue 10 digits), rest)
    | rest => (false, none, rest)
  match rest with
  | letter :: rest =>
    some ({ left := flags.contains '-', zeros := flags.contains '0', plus := flags.contains '+'
            blank := flags.contains ' ', marked := flags.contains '#', given
            width := baseValue 10 width, givenPrecision, precision, letter }, rest)
  | [] => none

/-- The conversion with the width and the precision that arguments give, if they are to, and the
other arguments. -/
def Conversion.complete (c : Conversion) (arguments : List Chars) : Conversion × List Chars :=
  let (c, arguments) := if c.given then
      let width := intAtFront (arguments.headD [])
      ({ c with left := c.left || width < 0, width := width.natAbs }, arguments.tail)
    else (c, arguments)
  if c.givenPrecision then
    let precision := intAtFront (arguments.headD [])
    ({ c with precision := if precision < 0 then none else some precision.toNat }, arguments.tail)
  else (c, arguments)

/-- A formatted text with the status that it leaves and what is wrong with the arguments or the
format, and the arguments that are left, unless output has ended. -/
structure Formatted where
  text : Chars
  status : Nat
  faults : List Chars
  left : Option (List Chars)

/-- A text with another one behind it. -/
def Formatted.followed (first : Formatted) (others : Formatted) : Formatted :=
  { others with
    text := first.text ++ others.text
    status := max first.status others.status
    faults := first.faults ++ others.faults }

/-- The format once, with the arguments that it uses. -/
def formatOnce : (fuel : Nat) → Chars → List Chars → Formatted
  | 0, _, arguments => ⟨[], 0, [], some arguments⟩
  | n + 1, cs, arguments =>
    let plain (first rest : Chars) : Formatted :=
      Formatted.followed ⟨first, 0, [], none⟩ (formatOnce n rest arguments)
    match cs with
    | [] => ⟨[], 0, [], some arguments⟩
    | '%' :: '%' :: rest => plain ['%'] rest
    | '%' :: rest =>
      match readConversion rest with
      | none => ⟨[], 2, ["missing format character".toList], none⟩
      | some (c, after) =>
        let spelling := '%' :: rest.take (rest.length - after.length)
        let (c, arguments) := c.complete arguments
        match c.apply (arguments.headD []) with
        | .text text fault =>
          Formatted.followed ⟨text, if fault.isNone then 0 else 1, fault.toList, none⟩
            (formatOnce n after arguments.tail)
        | .last text => ⟨text, 0, [], none⟩
        | .unknown => ⟨[], 2, [spelling ++ ": invalid directive".toList], none⟩
    | '\\' :: rest =>
      let (c, rest) := readEscaped rest
      plain [c] rest
    | c :: rest => plain [c] rest

/-- The format as often as there are arguments for it, at least once. -/
def formatAll (format : Chars) : (fuel : Nat) → List Chars → Formatted
  | 0, _ => ⟨[], 0, [], none⟩
  | n + 1, arguments =>
    let once := formatOnce (format.length + 1) format arguments
    match once.left with
    | some (a :: rest) =>
      if rest.length + 1 < arguments.length then once.followed (formatAll format n (a :: rest))
      else once
    | _ => once

/-- What `printf` writes. -/
def printfText (format : Chars) (arguments : List Chars) : Formatted :=
  formatAll format (arguments.length + 1) arguments

/-! ### Echoes -/

/-- What the `echo` of the shell writes: it does escapes. -/
def echoText (arguments : List Chars) : Chars :=
  let (newline, arguments) := match arguments with
    | ['-', 'n'] :: rest => (false, rest)
    | rest => (true, rest)
  let text := List.intercalate [' '] arguments
  let (text, more) := unescape (text.length + 1) text
  if newline && more then text ++ ['\n'] else text

/-- The character of an escape of the program `echo`, after its backslash. -/
def readEchoEscape : Chars → Char × Chars
  | 'x' :: a :: rest =>
    if !isHexDigit a then ('\\', 'x' :: a :: rest)
    else
      let digits := ((a :: rest).take 2).takeWhile isHexDigit
      (byteChar (baseValue 16 digits), (a :: rest).drop digits.length)
  | '0' :: rest =>
    let digits := (rest.take 3).takeWhile isOctal
    (byteChar (baseValue 8 digits), rest.drop digits.length)
  | cs => readEscaped cs

/-- The text of the program `echo` with its escapes done; `false` says that it ends early. -/
def unescapeEcho : (fuel : Nat) → Chars → Chars × Bool
  | 0, cs => (cs, true)
  | n + 1, cs =>
    match cs with
    | [] => ([], true)
    | '\\' :: 'c' :: _ => ([], false)
    | '\\' :: rest =>
      let (c, rest) := readEchoEscape rest
      let (text, more) := unescapeEcho n rest
      (c :: text, more)
    | c :: rest =>
      let (text, more) := unescapeEcho n rest
      (c :: text, more)

/-- What the program `echo` writes. The options in front say whether it ends the line and whether it
does escapes. -/
def plainEchoText : (newline escapes : Bool) → List Chars → Chars
  | newline, escapes, arguments =>
    let shown (arguments : List Chars) : Chars :=
      let text := List.intercalate [' '] arguments
      let (text, more) := if escapes then unescapeEcho (text.length + 1) text else (text, true)
      if newline && more then text ++ ['\n'] else text
    match arguments with
    | ('-' :: c :: flags) :: rest =>
      if (c :: flags).all fun f => f = 'n' || f = 'e' || f = 'E' then
        let escapes := (c :: flags).foldl (fun e f => if f = 'e' then true
          else if f = 'E' then false else e) escapes
        plainEchoText (newline && !(c :: flags).contains 'n') escapes rest
      else shown arguments
    | _ => shown arguments
termination_by _ _ arguments => arguments.length

end Switchboard.Shell
