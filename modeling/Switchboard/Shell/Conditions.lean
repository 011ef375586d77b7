import Switchboard.Shell.Files
import Switchboard.Shell.Format

/-!
# Conditions

What `test` makes of its arguments. A condition is read and worked out in one pass over the
arguments, by position; an argument that has the form of an operator is an operand where no operator
can stand.
-/

namespace Switchboard.Shell

/-- What conditions about files ask for. -/
structure Surroundings where
  tree : Tree
  directory : String
  /-- Whether the file at a path holds anything. -/
  isFilled : String → Bool

def surroundings : Run Surroundings := do
  let w ← getWorld
  return {
    tree := w.tree
    directory := String.ofList (← getThread).directory
    isFilled := fun place =>
      match (w.madeAt? place).bind Made.sink with
      | some sink => !(w.fileText sink).isEmpty
      | none => true }

namespace Surroundings

def find (s : Surroundings) (path : Chars) : String × Location :=
  Location.find s.tree s.directory (String.ofList path)

def locate (s : Surroundings) (path : Chars) : Location := (s.find path).2

end Surroundings

/-- The paths of links that are always there. -/
def linkPaths : List String :=
  Layout.links.map Prod.fst ++ (descriptorPaths.map Prod.fst).take 3 ++
    ["/dev/fd", "/bin/sh", "/usr/bin/sh"]

/-- What is wrong with a condition. -/
abbrev Verdict := Except Chars

/-- The operators that ask something about one operand. -/
def unaryOperators : List Char :=
  ['r', 'w', 'x', 'e', 'f', 'd', 'c', 'b', 'p', 'u', 'g', 'k', 's', 't', 'z', 'n', 'h', 'L', 'O',
   'G', 'S']

/-- The operators that compare two operands. -/
def binaryOperators : List Chars :=
  ["=", "!=", "<", ">", "-eq", "-ne", "-ge", "-gt", "-le", "-lt", "-nt", "-ot", "-ef"].map
    String.toList

def isBinary (text : Chars) : Bool := binaryOperators.contains text

/-- The integer that an operand is. -/
def operandInteger (text : Chars) : Verdict Int :=
  match decimal? text with
  | some n => .ok n
  | none => .error ("Illegal number: ".toList ++ text)

/-- What is asked about one operand. -/
def applyUnary (s : Surroundings) (letter : Char) (operand : Chars) : Verdict Bool :=
  let place := s.locate operand
  match letter with
  | 'z' => .ok operand.isEmpty
  | 'n' => .ok !operand.isEmpty
  | 't' => (operandInteger operand).map fun _ => false
  | 'd' => .ok (place = .directory)
  | 'f' => .ok (place matches .program _ | .file)
  | 'x' => .ok (place matches .program _ | .directory)
  | 'c' => .ok (place = .device)
  | 's' => .ok (match place with
    | .file => s.isFilled (s.find operand).1
    | .device => false
    | place => place.isThere)
  | 'k' => .ok (operand = "/tmp".toList || operand = "/var/tmp".toList)
  | 'h' => .ok (linkPaths.contains (String.ofList operand))
  | 'L' => .ok (linkPaths.contains (String.ofList operand))
  | letter => .ok (['r', 'w', 'e', 'O', 'G'].contains letter && place.isThere)

/-- What a comparison of two operands gives. No file is known to be newer than another one. -/
def applyBinary (s : Surroundings) (operator a b : Chars) : Verdict Bool :=
  let compare (f : Int → Int → Bool) : Verdict Bool := do
    .ok (f (← operandInteger a) (← operandInteger b))
  match String.ofList operator with
  | "=" => .ok (a = b)
  | "!=" => .ok (a ≠ b)
  | "<" => .ok (String.ofList a < String.ofList b)
  | ">" => .ok (String.ofList b < String.ofList a)
  | "-eq" => compare (· = ·)
  | "-ne" => compare (· ≠ ·)
  | "-ge" => compare (· ≥ ·)
  | "-gt" => compare (· > ·)
  | "-le" => compare (· ≤ ·)
  | "-lt" => compare (· < ·)
  | "-ef" => .ok ((s.locate a).isThere && s.find a = s.find b)
  | _ => .ok false

/-- What an argument is in a condition. -/
inductive Role where
  | nothing
  | operand
  | unary (letter : Char)
  | binary
  | not
  | both
  | oneOf
  | opening
  | closing
  deriving DecidableEq, Repr

/-- What the first of some arguments is. What asks about one operand is an operand itself if nothing
follows, or if a comparison follows that has a second operand. -/
def roleOf : List Chars → Role
  | [] => .nothing
  | ['!'] :: _ => .not
  | ['('] :: [] => .operand
  | ['('] :: _ => .opening
  | [')'] :: _ => .closing
  | ['-', 'a'] :: _ => .both
  | ['-', 'o'] :: _ => .oneOf
  | text :: rest =>
    let isOperand := match rest with
      | [] => true
      | [_] => false
      | next :: second :: _ => isBinary next && second ≠ [')']
    if isBinary text then .binary
    else match text with
      | ['-', c] => if unaryOperators.contains c && !isOperand then .unary c else .operand
      | _ => .operand

def argumentExpected {α : Type} (operator : Chars) : Verdict α :=
  .error (operator ++ ": argument expected".toList)

mutual

/-- Conditions joined by `-o` at the front of some arguments, with what follows the last one. -/
def readOneOf (s : Surroundings) : (fuel : Nat) → List Chars → Verdict (Bool × List Chars)
  | 0, _ => .error []
  | n + 1, arguments => do
    let (a, rest) ← readBoth s n arguments
    if roleOf rest = .oneOf then
      let (b, rest) ← readOneOf s n rest.tail
      .ok (a || b, rest)
    else .ok (a, rest)

/-- Conditions joined by `-a`. -/
def readBoth (s : Surroundings) : (fuel : Nat) → List Chars → Verdict (Bool × List Chars)
  | 0, _ => .error []
  | n + 1, arguments => do
    let (a, rest) ← readNegated s n arguments
    if roleOf rest = .both then
      let (b, rest) ← readBoth s n rest.tail
      .ok (a && b, rest)
    else .ok (a, rest)

def readNegated (s : Surroundings) : (fuel : Nat) → List Chars → Verdict (Bool × List Chars)
  | 0, _ => .error []
  | n + 1, arguments => do
    if roleOf arguments = .not then
      let (a, rest) ← readNegated s n arguments.tail
      .ok (!a, rest)
    else readPrimary s n arguments

/-- One condition without an operator that joins it to others. -/
def readPrimary (s : Surroundings) : (fuel : Nat) → List Chars → Verdict (Bool × List Chars)
  | 0, _ => .error []
  | n + 1, arguments =>
    match roleOf arguments, arguments with
    | .unary letter, operator :: rest =>
      match rest with
      | operand :: rest => do .ok (← applyUnary s letter operand, rest)
      | [] => argumentExpected operator
    | .opening, _ :: rest =>
      if roleOf rest = .closing then .ok (false, rest.tail)
      else do
        let (a, rest) ← readOneOf s n rest
        if roleOf rest = .closing then .ok (a, rest.tail)
        else .error "closing paren expected".toList
    | _, [] => .ok (false, [])
    | _, a :: rest =>
      if roleOf rest = .binary then
        match rest with
        | operator :: b :: rest => do .ok (← applyBinary s operator a b, rest)
        | operator :: [] => argumentExpected operator
        | [] => .ok (!a.isEmpty, [])
      else .ok (!a.isEmpty, rest)

end

/-- The value of a condition that nothing may follow. -/
def readWhole (s : Surroundings) (arguments : List Chars) : Verdict Bool := do
  let (value, rest) ← readOneOf s (6 * arguments.length + 6) arguments
  match rest with
  | [] => .ok value
  | _ :: _ =>
    let last := arguments.drop (arguments.length - rest.length - 1)
    .error ((last.headD []) ++ ": unexpected operator".toList)

/-- The value of a condition. Three arguments are a comparison if the one in the middle is one, and
up to four are a condition in parentheses or the opposite of one if their ends say so. -/
def evalTest (s : Surroundings) : List Chars → Verdict Bool
  | [] => .ok false
  | [a, operator, b] =>
    if isBinary operator then applyBinary s operator a b
    else if a = ['('] && b = [')'] then readWhole s [operator]
    else if a = ['!'] then (evalTest s [operator, b]).map (!·)
    else readWhole s [a, operator, b]
  | [a, b, c, d] =>
    if a = ['('] && d = [')'] then readWhole s [b, c]
    else if a = ['!'] then (evalTest s [b, c, d]).map (!·)
    else readWhole s [a, b, c, d]
  | arguments => readWhole s arguments
termination_by arguments => arguments.length

end Switchboard.Shell
