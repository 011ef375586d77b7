import Switchboard.Shell.Format
import Switchboard.Shell.Records.Syntax

/-!
# Tokens

A program on records is cut into tokens. A slash begins a regular expression where a value may
begin, and divides elsewhere.
-/

namespace Switchboard.Shell.Records

open Switchboard.Number

/-- The double as a machine has it. -/
def floatOf : Binary64 → Float
  | .finite negative m e =>
    let x := Float.scaleB (Float.ofNat m) e
    if negative then -x else x
  | .infinite negative => if negative then -1.0 / 0.0 else 1.0 / 0.0
  | .nan => 0.0 / 0.0

inductive Token where
  | number (value : Float)
  | string (text : Chars)
  | regex (text : Chars)
  | identifier (name : Chars)
  /-- A name right before an opening parenthesis. -/
  | callee (name : Chars)
  | word (text : String)
  | mark (text : String)
  | newline

namespace Token

/-- The words that are no names. -/
def reserved : List String :=
  ["BEGIN", "END", "function", "if", "else", "while", "for", "do", "break", "continue", "next",
   "nextfile", "exit", "return", "delete", "in", "getline", "print", "printf"]

/-- The functions that every program has, by their names. -/
def builtins : List (String × Builtin) :=
  [("atan2", .atan2), ("close", .close), ("cos", .cos), ("exp", .exp), ("fflush", .flush),
   ("index", .index), ("int", .int), ("length", .length), ("log", .log), ("tolower", .lower),
   ("match", .match_), ("mktime", .mktime), ("strftime", .strftime), ("rand", .rand),
   ("sin", .sin), ("split", .split), ("sprintf", .sprintf), ("sqrt", .sqrt), ("srand", .srand),
   ("sub", .sub false), ("gsub", .sub true), ("substr", .substr), ("system", .system),
   ("systime", .systime), ("toupper", .upper)]

/-- The marks, of which none is the front of a later one. -/
def marks : List String :=
  ["&&", "||", "==", "<=", ">=", "!=", "!~", "++", "--", "+=", "-=", "*=", "/=", "%=", "^=", ">>",
   "\x7b", "\x7d", "(", ")", "[", "]", ";", ",", "+", "-", "*", "/", "%", "^", "!", ">", "<", "|",
   "?", ":", "~", "$", "="]

/-- Whether a value may end with a token, so that a slash behind it divides. -/
def endsValue : Token → Bool
  | .number _ => true
  | .string _ => true
  | .identifier _ => true
  | .mark m => m = ")" || m = "]" || m = "++" || m = "--" || m = "$"
  | .word w => builtins.any fun b => b.1 = w
  | _ => false

/-- Whether lines that end with a token go on. -/
def goesOn : Token → Bool
  | .mark m => m = "\x7b" || m = "&&" || m = "||" || m = ","
  | .word w => w = "do" || w = "else"
  | .newline => true
  | _ => false

/-- A text in quotes, after the opening one, in at most `n` steps. -/
def readText : (n : Nat) → Chars → Option (Chars × Chars)
  | 0, _ => none
  | n + 1, cs =>
    let add (c : Char) (rest : Chars) := (readText n rest).map fun (text, rest) => (c :: text, rest)
    match cs with
    | [] => none
    | '\n' :: _ => none
    | '"' :: rest => some ([], rest)
    | '\\' :: '\n' :: rest => readText n rest
    | '\\' :: '"' :: rest => add '"' rest
    | '\\' :: c :: rest =>
      if isOctal c then
        let digits := ((c :: rest).take 3).takeWhile isOctal
        add (byteChar (baseValue 8 digits)) ((c :: rest).drop digits.length)
      else match c, (rest.take 2).takeWhile isHexDigit, escapeLetter? c with
        | 'e', _, _ => (add 'e' rest).map fun (text, rest) => ('\\' :: text, rest)
        | 'x', digits@(_ :: _), _ => add (byteChar (baseValue 16 digits)) (rest.drop digits.length)
        | _, _, some d => add d rest
        | c, _, none => (add c rest).map fun (text, rest) => ('\\' :: text, rest)
    | c :: rest => add c rest

/-- A regular expression, after the opening slash. In brackets a slash is nothing special. -/
def readRegex : (inSet : Bool) → Chars → Option (Chars × Chars)
  | _, [] => none
  | _, '\n' :: _ => none
  | inSet, '\\' :: '/' :: rest =>
    (readRegex inSet rest).map fun (text, rest) => ('/' :: text, rest)
  | inSet, '\\' :: c :: rest =>
    (readRegex inSet rest).map fun (text, rest) => ('\\' :: c :: text, rest)
  | false, '/' :: rest => some ([], rest)
  | false, '[' :: ']' :: rest =>
    (readRegex true rest).map fun (text, rest) => ('[' :: ']' :: text, rest)
  | inSet, c :: rest =>
    let next := if inSet then c ≠ ']' else c = '['
    (readRegex next rest).map fun (text, rest) => (c :: text, rest)

/-- A number at the front of a text: digits with a point among them and an exponent. -/
def readNumber (cs : Chars) : Float × Chars :=
  let (whole, rest) := cs.span Char.isDigit
  let (fraction, rest) := match rest with
    | '.' :: rest => rest.span Char.isDigit
    | rest => ([], rest)
  let exponent : Option (Int × Chars) := match rest with
    | e :: rest =>
      if e = 'e' || e = 'E' then
        let (negative, digits) := match rest with
          | '-' :: digits => (true, digits)
          | '+' :: digits => (false, digits)
          | digits => (false, digits)
        match digits.span Char.isDigit with
        | ([], _) => none
        | (digits, rest) =>
          let k : Int := baseValue 10 digits
          some (if negative then -k else k, rest)
      else none
    | [] => none
  let (k, rest) := exponent.getD (0, rest)
  let digits := baseValue 10 (whole ++ fraction)
  (floatOf (.ofDecimal false digits (k - fraction.length)), rest)

def isNameStart (c : Char) : Bool := c.isAlpha || c = '_'

/-- The tokens of a program, in at most `n` steps, the last one first. -/
def readAll : (n : Nat) → (done : List Token) → Chars → Option (List Token)
  | 0, _, _ => none
  | n + 1, done, cs =>
    let isValueEnd := (done.head?.map endsValue).getD false
    match cs with
    | [] => some done.reverse
    | '#' :: rest => readAll n done (rest.dropWhile (· ≠ '\n'))
    | '\\' :: '\n' :: rest => readAll n done rest
    | '\n' :: rest =>
      if (done.head?.map goesOn).getD true then readAll n done rest
      else readAll n (.newline :: done) rest
    | '"' :: rest => do
      let (text, rest) ← readText (rest.length + 1) rest
      readAll n (.string text :: done) rest
    | c :: rest =>
      if c = ' ' || c = '\t' || c = '\r' then readAll n done rest
      else if c.isDigit || (c = '.' && (rest.head?.map Char.isDigit).getD false) then
        let (value, rest) := readNumber (c :: rest)
        if value.isInf then none else readAll n (.number value :: done) rest
      else if isNameStart c then
        let (name, rest) := (c :: rest).span fun c => isNameStart c || c.isDigit
        let text := String.ofList name
        let token : Token :=
          if text = "func" then .word "function"
          else if reserved.contains text || builtins.any fun b => b.1 = text then .word text
          else if rest.head? = some '(' then .callee name else .identifier name
        readAll n (token :: done) rest
      else if c = '/' && !isValueEnd then do
        let (text, rest) ← readRegex false rest
        readAll n (.regex text :: done) rest
      else do
        let mark ← marks.find? fun m => m.toList.isPrefixOf (c :: rest)
        readAll n (.mark mark :: done) ((c :: rest).drop mark.length)

/-- The tokens of a program. -/
def ofText? (text : Chars) : Option (List Token) := readAll (text.length + 1) [] text

end Token

end Switchboard.Shell.Records
