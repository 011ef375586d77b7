import Switchboard.Shell.Arguments
import Switchboard.Shell.Expansion

/-!
# Reading lines into variables

The command `read` takes a line of the input apart at separators. The last variable gets what is
left, without the blanks at its end, and without a separator if it is one field only.
-/

namespace Switchboard.Shell

/-- A character and whether it was escaped. -/
abbrev Marked := Char × Bool

/-- The characters of a line with their escapes undone; `true` says that the line goes on. -/
def unescapeLine : Chars → List Marked × Bool
  | [] => ([], false)
  | ['\\'] => ([], true)
  | '\\' :: c :: rest =>
    let (line, more) := unescapeLine rest
    ((c, true) :: line, more)
  | c :: rest =>
    let (line, more) := unescapeLine rest
    ((c, false) :: line, more)

/-- A line that is being taken apart: how many separators may still end a field, the fields before
the one that is read, both the last one first, and what the last field is if nothing else comes. -/
structure Parting where
  left : Nat
  done : List Chars
  current : Chars
  kept : Option Chars
  /-- Whether the last separator was a blank. -/
  soft : Bool

namespace Parting

def add (p : Parting) (c : Char) : Parting := { p with current := c :: p.current, soft := false }

/-- One character that is not escaped. -/
def step (separators : Chars) (p : Parting) (c : Char) : Parting :=
  let isSeparator := separators.contains c
  let isBlank := isBlankSeparator separators c
  if p.left = 0 then
    if isBlank then { p with kept := p.kept.or (some p.current), current := c :: p.current }
    else
      let kept := if isSeparator && p.soft then p.kept else none
      { p.add c with kept }
  else if p.soft then
    if isBlank then p
    else if isSeparator then { p with soft := false }
    else p.add c
  else if !isSeparator then p.add c
  else if p.current.isEmpty && isBlank then p
  else if p.left = 1 then
    { p with left := 0, kept := some p.current, current := c :: p.current, soft := isBlank }
  else
    { p with left := p.left - 1, done := p.current :: p.done, current := [], soft := isBlank }

/-- One character; one that is escaped is no separator, and interrupts them. -/
def stepMarked (separators : Chars) (p : Parting) : Marked → Parting
  | (c, false) => p.step separators c
  | (c, true) => { p with current := c :: p.current, soft := false }

/-- The fields of a line, at most `n`. -/
def fields (separators : Chars) (n : Nat) (line : List Marked) : List Chars :=
  let p := line.foldl (stepMarked separators) ⟨n, [], [], none, false⟩
  let last := p.kept.getD p.current
  ((if last.isEmpty then p.done else last :: p.done).map List.reverse).reverse

end Parting

/-- Reads a line that may go on in the following lines. -/
def readMarked (raw : Bool) : (n : Nat) → Run (List Marked × LineEnd)
  | 0 => return ([], .atEnd)
  | n + 1 => do
    let (line, ending) ← readInputLine .shell false 0 readBound []
    if raw then return (line.map (·, false), ending)
    else
      match unescapeLine line, ending with
      | (line, true), .complete =>
        let (rest, ending) ← readMarked raw n
        return (line ++ rest, ending)
      | (line, _), ending => return (line, ending)

/-- Assigns fields to names; names without a field get nothing. -/
def assignFields : List Chars → List Chars → Run Unit
  | [], _ => return ()
  | name :: names, fields => do
    assign name (fields.headD [])
    assignFields names fields.tail

def readBuiltin (arguments : List Chars) : Run Unit := do
  let (given, names) ← leadingOptions ['r'] ['p'] arguments
  if names.isEmpty then fail "arg count".toList
  else
    let (line, ending) ← readMarked (given.any (·.1 = 'r')) readBound
    let line := line.filter fun (c, _) => c ≠ '\x00'
    if ending != .interrupted then
      assignFields names (Parting.fields (← getThread).separators names.length line)
    setStatus (if ending = .complete then 0 else 1)

end Switchboard.Shell
