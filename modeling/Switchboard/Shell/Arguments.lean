import Switchboard.Shell.Streams
import Switchboard.Shell.Variables

/-!
# Arguments of built-in commands

Options, numbers and signals among the arguments of the commands that are part of the shell. What is
wrong with them is said, and the command does not go on.
-/

namespace Switchboard.Shell

/-- The options in front of some arguments, and the arguments behind them. -/
def leadingOptions (plain valued : Chars) : List Chars →
    Run (List (Char × Chars) × List Chars)
  | [] => return ([], [])
  | argument :: rest =>
    match argument with
    | ['-', '-'] => return ([], rest)
    | '-' :: c :: letters =>
      let table : OptionTable := { plain, valued, long := [] }
      match table.readLetters (c :: letters), rest with
      | .ok (given, none), rest => do
        let (more, rest) ← leadingOptions plain valued rest
        return (given ++ more, rest)
      | .ok (given, some letter), value :: rest => do
        let (more, rest) ← leadingOptions plain valued rest
        return (given ++ (letter, value) :: more, rest)
      | .ok (_, some letter), [] =>
        fail ("No arg for -".toList ++ [letter] ++ " option".toList)
      | .error letter, _ => fail ("Illegal option -".toList ++ [letter])
    | _ => return ([], argument :: rest)

/-- The number of no sign that an argument is. -/
def argumentCount (text : Chars) : Run Nat :=
  match count? text with
  | some n => return n
  | none => fail ("Illegal number: ".toList ++ text)

/-- The number that is the first argument. -/
def firstCount (standard : Nat) : List Chars → Run Nat
  | [] => return standard
  | text :: _ => argumentCount text

/-- The signals by the names that scripts use. -/
def signalNames : List (Nat × Chars) :=
  (0, "EXIT".toList) :: (Signal.names.filter fun s => s.1 != 16).map fun (n, name) =>
    (n, name.toList.drop 3)

/-- The number of a signal that is written as a number. -/
def signalDigits? (text : Chars) : Option Nat :=
  let n := baseValue 10 text
  if !text.isEmpty && text.all Char.isDigit && n ≤ 64 then some n else none

/-- The number of a signal, or 0 for the end of the shell. -/
def signalNumber? (text : Chars) : Option Nat :=
  (signalDigits? text).or
    ((signalNames.find? fun (_, name) => name = text.map Char.toUpper).map Prod.fst)

/-- What a signal is called. -/
def signalName (number : Nat) : Chars := (signalNames.lookup number).getD (decimalChars number)

end Switchboard.Shell
