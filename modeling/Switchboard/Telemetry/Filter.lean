import Switchboard.Expression.Check
import Switchboard.Number.Reading
import Switchboard.Telemetry.Config
import Switchboard.Trace

/-!
# Filters of events

A filter is a list of directives with commas between them. A directive names a target, or a span, or
fields, and the level up to which their events pass. The most specific directive that fits an event
decides: the one with the longest target, then the one with the most fields.
-/

namespace Switchboard

/-- A directive for events, or for what happens inside of a span. -/
structure Directive where
  /-- The level up to which events pass, from 0 for none to 5 for all. -/
  level : Nat
  target : Option String
  span : Option String
  /-- The names of fields, each with the value it must have if one is given. -/
  fields : List (String × Option String)
  deriving DecidableEq, Repr

inductive DirectiveFault where
  | malformed
  | badLevel
  /-- The value of a field is an expression that cannot be used. -/
  | badValue (fault : Expression.Fault)
  deriving DecidableEq, Repr

def DirectiveFault.message : DirectiveFault → String
  | .malformed => "invalid filter directive"
  | .badValue fault => "invalid field filter: " ++ fault.message
  | .badLevel =>
    "error parsing level filter: expected one of \"off\", \"error\", \"warn\", \"info\", " ++
      "\"debug\", \"trace\", or a number 0-5"

namespace Directive

def maxLevel : Nat := 5

/-- The number in a text of digits, a plus sign before them being allowed. -/
def number? (cs : List Char) : Option Nat :=
  let digits := match cs with
    | '+' :: rest => rest
    | cs => cs
  if digits.isEmpty || !digits.all Char.isDigit then none
  else some (digits.foldl (fun n c => 10 * n + (c.toNat - 48)) 0)

/-- The level that a text names: by number, or by name in any case. -/
def level? (cs : List Char) : Option Nat :=
  match number? cs with
  | some n => if n ≤ maxLevel then some n else none
  | none => names.lookup (Text.lower cs)
where
  names : List (List Char × Nat) :=
    [("".toList, 1), ("off".toList, 0), ("error".toList, 1), ("warn".toList, 2),
     ("info".toList, 3), ("debug".toList, 4), ("trace".toList, 5)]

/-- The level after an equals sign; without a text it is the greatest. -/
def levelOrMost (cs : List Char) : Except DirectiveFault Nat :=
  if cs.isEmpty then .ok maxLevel
  else match level? cs with
    | some n => .ok n
    | none => .error .badLevel

/-- Where the reading of a directive stands; numbers are places where a piece begins, in bytes. -/
inductive Place where
  | start
  | levelOrTarget (first : Nat)
  | span (first : Nat)
  | field (first : Nat)
  | fields
  | target
  | level (first : Nat)
  deriving DecidableEq, Repr

/-- A text without its first bytes; there is none if they end inside of a character. -/
def dropBytes? : Nat → List Char → Option (List Char)
  | 0, cs => some cs
  | n + 1, c :: cs => if c.utf8Size ≤ n + 1 then dropBytes? (n + 1 - c.utf8Size) cs else none
  | _ + 1, [] => none

/-- The first bytes of a text; there are none if they end inside of a character. -/
def takeBytes? : Nat → List Char → Option (List Char)
  | 0, _ => some []
  | n + 1, c :: cs =>
    if c.utf8Size ≤ n + 1 then (takeBytes? (n + 1 - c.utf8Size) cs).map (c :: ·) else none
  | _ + 1, [] => none

/-- The piece of a text from one place up to another. -/
def piece (text : List Char) (first last : Nat) : Except DirectiveFault String :=
  match (dropBytes? first text).bind (takeBytes? (last - first)) with
  | some cs => .ok (String.ofList cs)
  | none => .error .malformed

/-- The piece of a text from a place on. -/
def pieceFrom (text : List Char) (first : Nat) : Except DirectiveFault (List Char) :=
  match dropBytes? first text with
  | some cs => .ok cs
  | none => .error .malformed

/-- The value of a field: a number, or an expression that is to be used. -/
def fieldValue (text : String) : Except DirectiveFault String :=
  if (Number.Binary64.parse? text).isSome then .ok text
  else match Expression.fault? text.toList with
    | some fault => .error (.badValue fault)
    | none => .ok text

/-- The field in a piece: a name, and the value after an equals sign. -/
def field (text : String) : Except DirectiveFault (String × Option String) :=
  match text.splitOn "=" with
  | [""] => .error .malformed
  | [name] => .ok (name, none)
  | name :: value :: _ => do .ok (name, some (← fieldValue value))
  | [] => .error .malformed

/-- Reads the character at a place. Pieces are cut out of `text`. -/
def readChar (text : List Char) (i : Nat) (c : Char) (d : Directive) :
    Place → Except DirectiveFault (Directive × Place)
  | .start =>
    if c = '[' then .ok (d, .span (i + 1))
    else if c = '-' || c = ':' || c = '_' || Text.isLetterOrNumber c then .ok (d, .levelOrTarget i)
    else .error .malformed
  | .levelOrTarget first =>
    if c = '=' then do
      .ok ({ d with target := some (← piece text first i) }, .level (i + 1))
    else if c = '[' then do
      .ok ({ d with target := some (← piece text first i) }, .span (i + 1))
    else .ok (d, .levelOrTarget first)
  | .span first =>
    if c = ']' then do
      .ok ({ d with span := some (← piece text first i) }, .target)
    else if c = '\x7b' then do
      let name ← piece text first i
      .ok ({ d with span := if name = "" then none else some name }, .field (i + 1))
    else .ok (d, .span first)
  | .field first =>
    if c = '\x7d' then do
      let f ← field (← piece text first i)
      .ok ({ d with fields := d.fields ++ [f] }, .fields)
    else .ok (d, .field first)
  | .fields => if c = ']' then .ok (d, .target) else .error .malformed
  | .target => if c = '=' then .ok (d, .level (i + 1)) else .error .malformed
  | .level first => .ok (d, .level first)

/-- Reads the characters from a place on. -/
def readChars (text : List Char) :
    (i : Nat) → List Char → Directive → Place → Except DirectiveFault (Directive × Place)
  | _, [], d, p => .ok (d, p)
  | i, c :: cs, d, p => do
    let (d, p) ← readChar text i c d p
    readChars text (i + c.utf8Size) cs d p

/-- What the end of the text makes of the last piece. -/
def finish (text : List Char) (d : Directive) : Place → Except DirectiveFault Directive
  | .levelOrTarget first => do
    let last ← pieceFrom text first
    if last.isEmpty then .ok { d with level := maxLevel, target := none }
    else match level? last with
      | some n => .ok { d with level := n, target := none }
      | none => .ok { d with level := maxLevel, target := some (String.ofList last) }
  | .level first => do
    let n ← levelOrMost (← pieceFrom text first)
    .ok { d with level := n }
  | .target => .ok d
  | _ => .error .malformed

/-- The directive in a text. Its characters are read without the blanks around them; places are
counted from the first one, but the pieces are cut out of the text as it stands. -/
def parse (text : List Char) : Except DirectiveFault Directive := do
  let d : Directive := { level := maxLevel, target := none, span := none, fields := [] }
  let (d, p) ← readChars text 0 (Text.trim text) d .start
  finish text d p

/-- The directive that lets errors of all targets pass. -/
def errorsOnly : Directive := { level := 1, target := none, span := none, fields := [] }

/-- Whether a directive decides about events: it names no span and gives no values. -/
def isForEvents (d : Directive) : Bool := d.span.isNone && d.fields.all (·.2.isNone)

/-- Whether a directive has to do with an event. -/
def fits (d : Directive) (e : Event) : Bool :=
  (match d.target with
    | none => true
    | some t => t.isPrefixOf e.target) &&
  d.fields.all fun (name, _) => name == "message" || (e.fields.lookup name).isSome

/-- How specific a directive is. -/
def targetSize (d : Directive) : Nat := (d.target.map fun t => t.utf8ByteSize + 1).getD 0

/-- Whether a directive is tried before another, or in its place. -/
def precedes (a b : Directive) : Bool :=
  if a.targetSize ≠ b.targetSize then a.targetSize > b.targetSize
  else if a.fields.length ≠ b.fields.length then a.fields.length > b.fields.length
  else !(a.fields.map Prod.fst).lex (b.fields.map Prod.fst) fun s t => s < t

/-- Whether a directive replaces another. -/
def replaces (a b : Directive) : Bool :=
  a.target == b.target && a.fields.map Prod.fst == b.fields.map Prod.fst

end Directive

/-- The directives for events, in the order in which they were given. -/
structure Filter where
  directives : List Directive
  deriving DecidableEq, Repr

namespace Filter

/-- The filter in a text: directives between commas, empty ones being passed over. A text without
directives lets errors pass. -/
def parse (text : String) : Except DirectiveFault Filter := do
  let parts := (text.splitOn ",").filter (· ≠ "")
  let directives ← parts.mapM fun part => Directive.parse part.toList
  .ok { directives := if directives.isEmpty then [.errorsOnly] else directives }

/-- The directive that decides about an event: of those that fit, the most specific one, and of
equal ones the last. -/
def deciding? (f : Filter) (e : Event) : Option Directive :=
  (f.directives.filter fun d => d.isForEvents && d.fits e).foldl
    (fun best d =>
      match best with
      | none => some d
      | some b => if d.replaces b || d.precedes b then some d else some b)
    none

/-- Whether an event passes. -/
def passes (f : Filter) (e : Event) : Bool :=
  match f.deciding? e with
  | some d => e.level.detail ≤ d.level
  | none => false

end Filter

end Switchboard
