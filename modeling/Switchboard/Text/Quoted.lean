import Switchboard.Text.Hidden

/-!
# Quoted text

The form in which reports show a text between double quotes: the quote, the backslash and the usual
controls are escaped, and a character without a picture of its own is given by its number.
-/

namespace Switchboard.Text.Quoted

/-- One character of a quoted text. -/
def encodeChar (c : Char) : List Char :=
  match c with
  | '"' => ['\\', '"']
  | '\\' => ['\\', '\\']
  | '\n' => ['\\', 'n']
  | '\r' => ['\\', 'r']
  | '\t' => ['\\', 't']
  | '\x00' => ['\\', '0']
  | c =>
    if isHidden c then '\\' :: 'u' :: '\x7b' :: Nat.toDigits 16 c.toNat ++ ['\x7d'] else [c]

/-- The characters of a quoted text, quotes included. -/
def encode (cs : List Char) : List Char := '"' :: cs.flatMap encodeChar ++ ['"']

/-- A text as a report shows it. -/
def quote (s : String) : String := String.ofList (encode s.toList)

end Switchboard.Text.Quoted
