import Switchboard.Json.Value
import Switchboard.Number.Layout

/-!
# The text of a document

Documents are written without blanks. `Value.chars` gives the characters, `Value.render` the text.
Of the characters of a text only the quote, the backslash and the controls are escaped, so no
written document contains a line break.
-/

namespace Switchboard.Json

open Switchboard.Number

/-- The hexadecimal digit of a number below sixteen. -/
def hexDigit (n : Nat) : Char := Char.ofNat (if n < 10 then 48 + n else 87 + n)

/-- One character inside of quotes. -/
def escapeChar (c : Char) : List Char :=
  if c = '"' then ['\\', '"']
  else if c = '\\' then ['\\', '\\']
  else if c = '\n' then ['\\', 'n']
  else if c = '\r' then ['\\', 'r']
  else if c = '\t' then ['\\', 't']
  else if c = '\x08' then ['\\', 'b']
  else if c = '\x0c' then ['\\', 'f']
  else if c.toNat < 32 then ['\\', 'u', '0', '0', hexDigit (c.toNat / 16), hexDigit (c.toNat % 16)]
  else [c]

/-- The characters of a text, each in its written form. -/
def escape (cs : List Char) : List Char := cs.flatMap escapeChar

/-- A written text, quotes included. -/
def quoted (s : String) : List Char := '"' :: escape s.toList ++ ['"']

/-- The decimal digits of an integer. -/
def intChars (i : Int) : List Char :=
  if i < 0 then '-' :: Nat.toDigits 10 i.natAbs else Nat.toDigits 10 i.natAbs

def Number.chars : Number → List Char
  | .int i => intChars i
  | .float x => Layout.json.chars x

mutual

/-- The characters of a document. -/
def Value.chars : Value → List Char
  | .null => ['n', 'u', 'l', 'l']
  | .bool true => ['t', 'r', 'u', 'e']
  | .bool false => ['f', 'a', 'l', 's', 'e']
  | .number n => n.chars
  | .string s => quoted s
  | .array items => '[' :: itemsChars items ++ [']']
  | .object members => '\x7b' :: membersChars members ++ ['\x7d']

/-- List items with commas between them. -/
def itemsChars : List Value → List Char
  | [] => []
  | v :: rest => v.chars ++ moreItemsChars rest

/-- Further list items, each after a comma. -/
def moreItemsChars : List Value → List Char
  | [] => []
  | v :: rest => ',' :: v.chars ++ moreItemsChars rest

/-- Members with commas between them. -/
def membersChars : List (String × Value) → List Char
  | [] => []
  | m :: rest => memberChars m ++ moreMembersChars rest

/-- Further members, each after a comma. -/
def moreMembersChars : List (String × Value) → List Char
  | [] => []
  | m :: rest => ',' :: memberChars m ++ moreMembersChars rest

/-- A member's name, a colon and its value. -/
def memberChars : String × Value → List Char
  | (k, v) => quoted k ++ ':' :: v.chars

end

/-- The text of a document. -/
def Value.render (v : Value) : String := String.ofList v.chars

end Switchboard.Json
