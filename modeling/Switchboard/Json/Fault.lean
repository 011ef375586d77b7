import Switchboard.Json.Value
import Switchboard.Number.Layout
import Switchboard.Text.Quoted

/-!
# What can be wrong with a document

A `Fault` is either a breach of the grammar or a value of another shape than the one asked for.
`Stop` is a fault with the place where reading stopped, counted in bytes from the end of the text;
`Error` is what a report shows, with the place as a line and a column.
-/

namespace Switchboard.Json

open Switchboard.Number

/-- What stands where something else was expected. -/
inductive Found where
  | null
  | bool (value : Bool)
  | number (value : Number)
  | string (value : String)
  | sequence
  | map
  deriving DecidableEq, Repr

inductive Fault where
  | endInValue
  | endInList
  | endInObject
  | endInString
  | expectedValue
  | expectedIdent
  | expectedColon
  | expectedListEnd
  | expectedObjectEnd
  | trailingComma
  | trailingCharacters
  | keyNotString
  | invalidNumber
  | numberOutOfRange
  | controlCharacter
  | invalidEscape
  | loneSurrogate
  | unfinishedSurrogate
  | tooDeep
  | wrongType (found : Found) (expected : String)
  | outOfRange (value : Int) (expected : String)
  | wrongLength (length : Nat) (expected : String)
  | oneMember
  | missingField (name : String)
  | duplicateField (name : String)
  | unknownVariant (name : String) (known : List String)
  deriving DecidableEq, Repr

/-- What a value is, without its parts. -/
def Value.found : Value → Found
  | .null => .null
  | .bool b => .bool b
  | .number n => .number n
  | .string s => .string s
  | .array _ => .sequence
  | .object _ => .map

namespace Found

def describe : Found → String
  | .null => "null"
  | .bool b => s!"boolean `{b}`"
  | .number (.int i) => s!"integer `{i}`"
  | .number (.float x) => "floating point `" ++ Layout.json.render x ++ "`"
  | .string s => "string " ++ Text.Quoted.quote s
  | .sequence => "sequence"
  | .map => "map"

end Found

/-- The names that were possible: one, one or the other, or one of a list. -/
def alternatives (names : List String) : String :=
  match names.map fun n => "`" ++ n ++ "`" with
  | [] => "there are no variants"
  | [a] => "expected " ++ a
  | [a, b] => "expected " ++ a ++ " or " ++ b
  | all => "expected one of " ++ String.intercalate ", " all

/-- The wording of a fault, without its place. -/
def Fault.message : Fault → String
  | .endInValue => "EOF while parsing a value"
  | .endInList => "EOF while parsing a list"
  | .endInObject => "EOF while parsing an object"
  | .endInString => "EOF while parsing a string"
  | .expectedValue => "expected value"
  | .expectedIdent => "expected ident"
  | .expectedColon => "expected `:`"
  | .expectedListEnd => "expected `,` or `]`"
  | .expectedObjectEnd => "expected `,` or `\x7d`"
  | .trailingComma => "trailing comma"
  | .trailingCharacters => "trailing characters"
  | .keyNotString => "key must be a string"
  | .invalidNumber => "invalid number"
  | .numberOutOfRange => "number out of range"
  | .controlCharacter => "control character (\\u0000-\\u001F) found while parsing a string"
  | .invalidEscape => "invalid escape"
  | .loneSurrogate => "lone leading surrogate in hex escape"
  | .unfinishedSurrogate => "unexpected end of hex escape"
  | .tooDeep => "recursion limit exceeded"
  | .wrongType found expected => "invalid type: " ++ found.describe ++ ", expected " ++ expected
  | .outOfRange value expected => s!"invalid value: integer `{value}`, expected {expected}"
  | .wrongLength length expected => s!"invalid length {length}, expected {expected}"
  | .oneMember => "invalid value: map, expected map with a single key"
  | .missingField name => "missing field `" ++ name ++ "`"
  | .duplicateField name => "duplicate field `" ++ name ++ "`"
  | .unknownVariant name known => "unknown variant `" ++ name ++ "`, " ++ alternatives known

/-- A place in a text. Lines count from one; the column is the number of bytes of the line up to
the place. -/
structure Position where
  line : Nat
  column : Nat
  deriving DecidableEq, Repr

/-- A fault, with its place if it was found in a text. -/
structure Error where
  fault : Fault
  position : Option Position
  deriving DecidableEq, Repr

def Error.message (e : Error) : String :=
  match e.position with
  | none => e.fault.message
  | some p => e.fault.message ++ s!" at line {p.line} column {p.column}"

/-- The number of bytes of a text. -/
def byteCount (cs : List Char) : Nat := cs.foldl (fun n c => n + c.utf8Size) 0

/-- The place after the first `offset` bytes, seen from a place before them. -/
def Position.advance (p : Position) : List Char → (offset : Nat) → Position
  | [], _ => p
  | c :: cs, offset =>
    if offset = 0 then p
    else if offset < c.utf8Size then { p with column := p.column + offset }
    else if c = '\n' then advance { line := p.line + 1, column := 0 } cs (offset - c.utf8Size)
    else advance { p with column := p.column + c.utf8Size } cs (offset - c.utf8Size)

/-- Where reading stopped, as the number of bytes that lie behind the place. -/
structure Stop where
  fault : Fault
  left : Nat
  deriving DecidableEq, Repr

namespace Stop

/-- A fault right before the given rest of the text. -/
def here (fault : Fault) (rest : List Char) : Stop := { fault, left := byteCount rest }

/-- A fault one byte further, or at the end if there is no byte. -/
def next (fault : Fault) (rest : List Char) : Stop := { fault, left := byteCount rest - 1 }

/-- The fault with its line and column in the whole text. -/
def locate (stop : Stop) (text : List Char) : Error :=
  { fault := stop.fault
    position := some (Position.advance ⟨1, 0⟩ text (byteCount text - stop.left)) }

end Stop

end Switchboard.Json
