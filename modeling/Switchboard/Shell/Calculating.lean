import Switchboard.Shell.Regex
import Switchboard.Shell.Streams

/-!
# Calculating

The program `expr` works out an expression of which each argument is a value or an operator.
-/

namespace Switchboard.Shell

/-- What is wrong with an expression. -/
inductive CalculationFault where
  | missingAfter (word : Chars)
  /-- A closing parenthesis in the place of a value. -/
  | noValue
  | leftOver (word : Chars)
  | unclosed (word : Chars)
  | closedBy (word : Chars)
  | notNumber
  | divisionByZero
  | pattern (fault : RegexFault)
  /-- An expression that nests too deeply. -/
  | endless

/-- What is wrong, in words. -/
def CalculationFault.message : CalculationFault → Chars
  | missingAfter word => "syntax error: missing argument after ".toList ++ betweenQuotes word
  | noValue => "syntax error: unexpected ')'".toList
  | leftOver word => "syntax error: unexpected argument ".toList ++ betweenQuotes word
  | unclosed word => "syntax error: expecting ')' after ".toList ++ betweenQuotes word
  | closedBy word => "syntax error: expecting ')' instead of ".toList ++ betweenQuotes word
  | notNumber => "non-integer argument".toList
  | divisionByZero => "division by zero".toList
  | pattern fault => fault.message.toList
  | endless => []

/-- The arguments that are still to be read, with the one before them. -/
structure CalculationWords where
  before : Chars
  rest : List Chars

/-- A reader of the front of some arguments, that gives a value; a value that does not matter is not
worked out. -/
abbrev ReadValue :=
  (matters : Bool) → CalculationWords → Except CalculationFault (Chars × CalculationWords)

/-- Whether a value counts as nothing. -/
def isNothing (value : Chars) : Bool :=
  value.isEmpty || ((decimal? value).map fun n => decide (n = 0)).getD false

/-- How regular expressions are written in expressions. -/
def calculationDialect : Dialect where
  isExtended := false
  isStrict := false
  allowsEmptyRanges := true
  allowsBareClasses := true
  items := wordItem?
  escape := fun _ => none
  quotesInSets := false

/-- What a regular expression fits at the front of a text: its first group, or how long it is. -/
def matchFront (text pattern : Chars) : Except CalculationFault Chars := do
  let search ← (calculationDialect.parse false pattern).mapError .pattern
  let hasGroup := 0 < search.groups
  match search.fitAt? (fun _ _ => true) text.toArray 0 with
  | some fit =>
    return if hasGroup then (fit.groups.lookup 1).getD [] else decimalChars fit.last
  | none => return if hasGroup then [] else ['0']

/-- The value of an operator between two values. -/
def applyCalculation (operator a b : Chars) : Except CalculationFault Chars :=
  let numeric (f : Int → Int → Except CalculationFault Int) : Except CalculationFault Chars :=
    match decimal? a, decimal? b with
    | some m, some n => (f m n).map decimalChars
    | _, _ => .error .notNumber
  let divided (f : Int → Int → Int) : Except CalculationFault Chars :=
    numeric fun a b => if b = 0 then .error .divisionByZero else .ok (f a b)
  let ordered (onNumbers : Int → Int → Bool) (onTexts : String → String → Bool) :
      Except CalculationFault Chars :=
    let holds := match decimal? a, decimal? b with
      | some m, some n => onNumbers m n
      | _, _ => onTexts (String.ofList a) (String.ofList b)
    .ok (if holds then ['1'] else ['0'])
  match String.ofList operator with
  | "|" => .ok (if !isNothing a then a else if isNothing b then ['0'] else b)
  | "&" => .ok (if isNothing a || isNothing b then ['0'] else a)
  | "=" => ordered (· = ·) (· = ·)
  | "==" => ordered (· = ·) (· = ·)
  | "!=" => ordered (· ≠ ·) (· ≠ ·)
  | "<" => ordered (· < ·) (· < ·)
  | "<=" => ordered (· ≤ ·) fun a b => !decide (b < a)
  | ">" => ordered (· > ·) fun a b => b < a
  | ">=" => ordered (· ≥ ·) fun a b => !decide (a < b)
  | "+" => numeric fun a b => .ok (a + b)
  | "-" => numeric fun a b => .ok (a - b)
  | "*" => numeric fun a b => .ok (a * b)
  | "/" => divided Int.tdiv
  | "%" => divided Int.tmod
  | _ => matchFront a b

/-- Whether the value behind an operator matters, once the one before it is known. -/
def needsSecond (operator a : Chars) : Bool :=
  match operator with
  | ['|'] => isNothing a
  | ['&'] => !isNothing a
  | _ => true

/-- The operators by precedence, the weakest first. -/
def calculationLevels : List (List String) :=
  [["|"], ["&"], ["=", "==", "!=", "<", "<=", ">", ">="], ["+", "-"], ["*", "/", "%"], [":"]]

/-- What follows a value on one level of precedence. -/
def readCalculations (level : List String) (operand : ReadValue) : (fuel : Nat) → Chars → ReadValue
  | n + 1, a, matters, words =>
    match words.rest with
    | operator :: rest =>
      if level.contains (String.ofList operator) then do
        let (b, words) ← operand (matters && needsSecond operator a) ⟨operator, rest⟩
        let value ← if matters then applyCalculation operator a b else .ok a
        readCalculations level operand n value matters words
      else .ok (a, words)
    | [] => .ok (a, words)
  | 0, a, _, words => .ok (a, words)

/-- Values with operators of the given levels between them. -/
def readCalculationLevels (operand : ReadValue) : List (List String) → ReadValue
  | [], matters, words => operand matters words
  | level :: tighter, matters, words => do
    let (a, words) ← readCalculationLevels operand tighter matters words
    readCalculations level (readCalculationLevels operand tighter) words.rest.length a matters words

/-- The next argument, whatever it is. -/
def nextWord (words : CalculationWords) : Except CalculationFault (Chars × CalculationWords) :=
  match words.rest with
  | [] => .error (.missingAfter words.before)
  | word :: rest => .ok (word, ⟨word, rest⟩)

/-- A value without operators. `whole` reads what stands in parentheses. -/
def readCalculationOperand (whole : ReadValue) : (fuel : Nat) → ReadValue
  | 0, _, _ => .error .endless
  | n + 1, matters, words => do
    let (word, words) ← nextWord words
    let operand := readCalculationOperand whole n matters
    match String.ofList word with
    | "+" => nextWord words
    | "length" =>
      let (text, words) ← operand words
      return (decimalChars text.length, words)
    | "match" =>
      let (text, words) ← operand words
      let (pattern, words) ← operand words
      return (← if matters then matchFront text pattern else .ok text, words)
    | "index" =>
      let (text, words) ← operand words
      let (set, words) ← operand words
      let place : Nat := ((text.findIdx? set.contains).map (· + 1)).getD 0
      return (decimalChars place, words)
    | "substr" =>
      let (text, words) ← operand words
      let (first, words) ← operand words
      let (count, words) ← operand words
      match count? first, count? count with
      | some (first + 1), some count => return ((text.drop first).take count, words)
      | _, _ => return ([], words)
    | "(" =>
      let (value, words) ← whole matters words
      match words.rest with
      | [')'] :: rest => return (value, ⟨[')'], rest⟩)
      | word :: _ => throw (.closedBy word)
      | [] => throw (.unclosed words.before)
    | ")" => throw .noValue
    | _ => return (word, words)

/-- An expression, nested up to a depth. -/
def readCalculation : (depth : Nat) → ReadValue
  | 0, _, _ => .error .endless
  | depth + 1, matters, words =>
    let operand := readCalculationOperand (readCalculation depth) (words.rest.length + 1)
    readCalculationLevels operand calculationLevels matters words

/-- The value of some arguments. -/
def calculate (arguments : List Chars) : Except CalculationFault Chars := do
  let (value, words) ← readCalculation (arguments.length + 1) true ⟨[], arguments⟩
  match words.rest with
  | [] => return value
  | word :: _ => throw (.leftOver word)

def exprProgram (arguments : List Chars) : Run Unit := do
  let arguments := if arguments.head? = some ['-', '-'] then arguments.tail else arguments
  if arguments.isEmpty then refuseUse "expr" 2 "missing operand".toList
  else match calculate arguments with
    | .ok value => do
      writeOut (value ++ ['\n'])
      setStatus (if isNothing value then 1 else 0)
    | .error fault => do
      writeError "expr" fault.message
      setStatus 2

end Switchboard.Shell
