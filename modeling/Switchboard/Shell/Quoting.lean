import Switchboard.Shell.Format

/-!
# Quoted names

How programs show a name in what they say: as the shell would have to be given it, or between two
quotes with escapes inside.
-/

namespace Switchboard.Shell

/-- The letter that stands for a control character behind a backslash. -/
def controlLetter? : Char → Option Char
  | '\x07' => some 'a'
  | '\x08' => some 'b'
  | '\t' => some 't'
  | '\n' => some 'n'
  | '\x0b' => some 'v'
  | '\x0c' => some 'f'
  | '\r' => some 'r'
  | _ => none

/-- The escape for a character that cannot be shown. -/
def shownEscape? (c : Char) : Option Chars :=
  match controlLetter? c with
  | some letter => some ['\\', letter]
  | none =>
    if ' ' ≤ c && c ≤ '~' then none
    else
      let digit (place : Nat) : Char := Char.ofNat ('0'.toNat + c.toNat / place % 8)
      some ['\\', digit 64, digit 8, digit 1]

/-- Whether the shell does not take a name as it stands. -/
def needsQuotes (name : Chars) : Bool :=
  name.isEmpty || name = ['\x7b'] || name = ['\x7d'] || name.head? = some '#' ||
    name.head? = some '~' || name.any fun c =>
      " !\"$&()*;<=>[^\x60|'\\?:".toList.contains c || (shownEscape? c).isSome

/-- Whether a character means the same in quotes of both kinds. -/
def isAlikeInQuotes (name : Chars) (c : Char) : Bool :=
  (c ≠ '#' || name.head? = some '#') && (c ≠ '~' || name.head? = some '~') &&
    !"!\"$&()*;<=>[^\x60|\\?\x7b\x7d".toList.contains c && (shownEscape? c).isNone

/-- The rest of a name behind an opening quote, with the closing one; `escaped` says that the part
before consists of escapes. -/
def quotedRest : (escaped : Bool) → Chars → Chars
  | _, [] => ['\'']
  | escaped, c :: rest =>
    match shownEscape? c with
    | some shown =>
      (if escaped then [] else "'$'".toList) ++ shown ++ quotedRest true rest
    | none =>
      if c = '\'' then "'\\''".toList ++ quotedRest false rest
      else (if escaped then "''".toList else []) ++ c :: quotedRest false rest

/-- A name in quotes, as the shell reads it. -/
def quoted (name : Chars) : Chars :=
  if name.contains '\'' && name.all (isAlikeInQuotes name) then '"' :: name ++ ['"']
  else '\'' :: quotedRest false name

/-- A name as the shell reads it, in quotes if there have to be any. -/
def shellName (name : Chars) : Chars := if needsQuotes name then quoted name else name

/-- A text between two quotes. -/
def betweenQuotes (text : Chars) : Chars :=
  let shown (c : Char) : Chars :=
    if c = '\'' || c = '\\' then ['\\', c] else (shownEscape? c).getD [c]
  '\'' :: text.flatMap shown ++ ['\'']

end Switchboard.Shell
