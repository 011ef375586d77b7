import Switchboard.Shell.Arithmetic
import Switchboard.Shell.Pattern
import Switchboard.Shell.Variables

/-!
# Expansion of words

A word becomes pieces of text, and the pieces become fields: what an expansion gives without quotes
is split at separators, all else stays together. The scripts in a word are run by the function that
each expansion gets as its first argument.
-/

namespace Switchboard.Shell

/-- A piece of an expanded word, or the border between two arguments. -/
inductive Piece where
  | text (quoted split : Bool) (text : Chars)
  | border
  deriving Repr

/-- What runs the scripts inside of words, and gives what they write. -/
abbrev Capture := Script → Run Chars

/-! ### Patterns in words -/

/-- The shortest or longest front of a text that a pattern fits. -/
def frontFitting? (pattern : List (Char × Bool)) (text : Chars) (longest : Bool) : Option Nat :=
  let lengths := List.range (text.length + 1)
  let lengths := if longest then lengths.reverse else lengths
  lengths.find? fun n => fits pattern (text.take n)

/-- The place from which on a pattern fits the rest of a text, giving the shortest or longest rest.
-/
def backFitting? (pattern : List (Char × Bool)) (text : Chars) (longest : Bool) : Option Nat :=
  let places := List.range (text.length + 1)
  let places := if longest then places else places.reverse
  places.find? fun n => fits pattern (text.drop n)

/-- The characters of a piece, each with whether it is quoted. -/
def Piece.chars (joint : Chars) : Piece → List (Char × Bool)
  | .text quoted _ cs => cs.map (·, quoted)
  | .border => joint.map (·, true)

/-- The pieces of a word as text. -/
def plainText (joint : Chars) (pieces : List Piece) : Chars :=
  (pieces.flatMap (Piece.chars joint)).map Prod.fst

/-- A piece that is split unless it is quoted. -/
def Piece.opened : Piece → Piece
  | .text quoted _ cs => .text quoted (!quoted) cs
  | .border => .border

/-- The arguments, with the borders between them. -/
def betweenArguments (quoted : Bool) (arguments : List Chars) : List Piece :=
  (arguments.map fun a => Piece.text quoted (!quoted) a).intersperse .border

/-! ### Arithmetic and homes -/

/-- The variables as numbers. -/
def threadStore : Store Thread where
  value t name :=
    let text := (t.valueOf? name).getD []
    if text.all isSpace then .ok 0
    else match integerOf? splitNatural text with
      | some n => .ok n
      | none => .error (.notNumber text)
  assign t name value :=
    if t.fixed.contains name then .error (.readOnly name)
    else .ok (t.setVariable name (decimalChars value))

/-- What is said about an expression with a fault. -/
def FormulaFault.describe (expression : Chars) (fault : FormulaFault) : Chars :=
  let about (what : String) : Chars :=
    "arithmetic expression: ".toList ++ what.toList ++ ": \"".toList ++ expression ++ ['"']
  match fault with
  | .primary => about "expecting primary"
  | .closing => about "expecting ')'"
  | .colon => about "expecting ':'"
  | .end_ => about "expecting EOF"
  | .divisionByZero => about "division by zero"
  | .notNumber text => "Illegal number: ".toList ++ text
  | .readOnly name => name ++ ": is read only".toList

/-- The value of an expression, with the assignments in it done. -/
def arithmetic (text : Chars) : Run Chars := do
  let t ← getThread
  match (do (← Formula.parse text).eval threadStore t) with
  | .ok (value, after) =>
    changeThread fun _ => after
    return decimalChars value
  | .error fault => fail (fault.describe text)

/-- The home of a user, or the text that names it if there is none. -/
def Thread.homeOf (t : Thread) (user : Chars) : Chars :=
  if user = "root".toList then "/root".toList
  else if user.isEmpty then (t.valueOf? "HOME".toList).getD ['~']
  else '~' :: user

/-! ### Pieces -/

/-- What is said about a parameter that has to have a value. -/
def missingMessage (orEmpty : Bool) (given : Chars) : Chars :=
  if given.isEmpty then
    ("parameter not set" ++ if orEmpty then " or null" else "").toList
  else given

/-- The pieces of a parameter; `expandArgument` expands the argument of the operation. -/
def expandParameter (expandArgument : Run (List Piece)) (quoted : Bool) (name : Chars)
    (op : ParamOp) : Run (List Piece) := do
  let t ← getThread
  let value := t.parameter? name
  let shown (text : Chars) := [Piece.text quoted (!quoted) text]
  let plain : List Piece :=
    if name = ['@'] || (name = ['*'] && !quoted) then betweenArguments quoted t.arguments
    else shown (value.getD [])
  let isMissing (orEmpty : Bool) := value.isNone || (orEmpty && value = some [])
  let needed : Run Chars := do
    match value with
    | some text => return text
    | none => if t.hasOption 'u' then failAt name "parameter not set" else return []
  let argument : Run (List Piece) := do return (← expandArgument).map Piece.opened
  let text : Run Chars := do return plainText t.joint (← expandArgument)
  let pattern : Run (List (Char × Bool)) := do
    return (← expandArgument).flatMap (Piece.chars t.joint)
  match op with
  | .plain =>
    let _ ← needed
    return plain
  | .length => return shown (decimalChars (← needed).length)
  | .default_ orEmpty => if isMissing orEmpty then argument else return plain
  | .alternative orEmpty => if isMissing orEmpty then return [] else argument
  | .assign orEmpty =>
    if isMissing orEmpty then
      let assigned ← text
      assign name assigned
      return shown assigned
    else return plain
  | .require orEmpty =>
    if isMissing orEmpty then fail (name ++ [':', ' '] ++ missingMessage orEmpty (← text))
    else return plain
  | .trimFront longest =>
    let whole ← needed
    return shown (whole.drop ((frontFitting? (← pattern) whole longest).getD 0))
  | .trimBack longest =>
    let whole ← needed
    return shown (whole.take ((backFitting? (← pattern) whole longest).getD whole.length))
  | .unknown => fail "Bad substitution".toList

/-- The pieces of a word; `depth` bounds the words in words. -/
def expandParts (capture : Capture) : (depth : Nat) → List Part → Run (List Piece)
  | _, [] => return []
  | 0, _ => return []
  | depth + 1, part :: rest => do
    let first ← match part with
      | .literal quoted text => pure [Piece.text quoted false text]
      | .home user => do
        pure [Piece.text true false ((← getThread).homeOf user)]
      | .output quoted script => do
        let text ← capture script
        let trimmed := (text.reverse.dropWhile (· = '\n')).reverse
        pure [Piece.text quoted (!quoted) trimmed]
      | .arithmetic quoted expression => do
        let pieces ← expandParts capture depth expression
        let text ← arithmetic (plainText (← getThread).joint pieces)
        pure [Piece.text quoted (!quoted) text]
      | .param quoted name op argument =>
        expandParameter (expandParts capture depth argument) quoted name op
    return first ++ (← expandParts capture depth rest)

/-- A bound on the parts of a word and on the words in words. -/
def expansionDepth : Nat := 10000

/-- A word that is not split. -/
def expandText (capture : Capture) (word : Word) : Run Chars := do
  let pieces ← expandParts capture expansionDepth word
  return plainText (← getThread).joint pieces

/-- A word as a pattern. -/
def expandPattern (capture : Capture) (word : Word) : Run (List (Char × Bool)) := do
  let pieces ← expandParts capture expansionDepth word
  return pieces.flatMap (Piece.chars (← getThread).joint)

/-! ### Fields -/

def standardSeparators : Chars := [' ', '\t', '\n']

def Thread.separators (t : Thread) : Chars :=
  (t.valueOf? "IFS".toList).getD standardSeparators

def isBlankSeparator (separators : Chars) (c : Char) : Bool :=
  separators.contains c && standardSeparators.contains c

/-- The fields of pieces. `current` is the field that is being put together, if there is one, and
`done` holds the fields before it, both the last one first. After blanks a field is closed softly: a
separator that follows belongs to them. -/
structure Fields where
  done : List Chars
  current : Option Chars
  soft : Bool

def Fields.close (f : Fields) : Fields :=
  match f.current with
  | some text => { done := text.reverse :: f.done, current := none, soft := false }
  | none => { f with soft := false }

def Fields.add (f : Fields) (text : Chars) : Fields :=
  { f with current := some (text.reverse ++ f.current.getD []), soft := false }

def Fields.addChar (separators : Chars) (f : Fields) (c : Char) : Fields :=
  if isBlankSeparator separators c then
    if f.current.isSome then { f.close with soft := true } else f
  else if separators.contains c then
    if f.soft then { f with soft := false } else (f.add []).close
  else f.add [c]

def Fields.addPiece (separators : Chars) (f : Fields) : Piece → Fields
  | .border => f.close
  | .text _ true text => text.foldl (Fields.addChar separators) { f with soft := false }
  | .text _ false text => f.add text

def fieldsOf (separators : Chars) (pieces : List Piece) : List Chars :=
  ((pieces.foldl (Fields.addPiece separators) ⟨[], none, false⟩).close).done.reverse

/-- The fields of some words. -/
def expandWords (capture : Capture) : List Word → Run (List Chars)
  | [] => return []
  | word :: rest => do
    let pieces ← expandParts capture expansionDepth word
    let fields := fieldsOf (← getThread).separators pieces
    return fields ++ (← expandWords capture rest)

end Switchboard.Shell
