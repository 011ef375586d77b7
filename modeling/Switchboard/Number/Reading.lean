import Switchboard.Number.Binary64
import Switchboard.Text.Blank

/-!
# Reading a double from running text

An optional sign, then `inf`, `infinity` or `nan` in any case, or digits with an optional point
among them and an optional exponent. The result is the double nearest to the written number.
-/

namespace Switchboard.Number

open Switchboard.Text

/-- The natural number that decimal digits stand for. -/
def natOfDigits (ds : List Char) : Nat := ds.foldl (fun n c => n * 10 + (c.toNat - 48)) 0

/-- An integer with an optional sign and at least one digit. -/
def signedDigits? (cs : List Char) : Option Int :=
  let (negative, ds) := match cs with
    | '-' :: ds => (true, ds)
    | '+' :: ds => (false, ds)
    | ds => (false, ds)
  if ds = [] ∨ !ds.all Char.isDigit then none
  else some (if negative then -(natOfDigits ds : Int) else natOfDigits ds)

/-- A number without a sign. -/
def unsigned? (negative : Bool) (cs : List Char) : Option Binary64 := do
  let whole := cs.takeWhile Char.isDigit
  let rest := cs.dropWhile Char.isDigit
  let (fraction, rest) := match rest with
    | '.' :: rest => (rest.takeWhile Char.isDigit, rest.dropWhile Char.isDigit)
    | rest => ([], rest)
  if whole = [] ∧ fraction = [] then none else
  let exponent ← match rest with
    | [] => some 0
    | c :: rest => if c = 'e' ∨ c = 'E' then signedDigits? rest else none
  pure (.ofDecimal negative (natOfDigits (whole ++ fraction)) (exponent - fraction.length))

/-- The double that a text stands for. -/
def Binary64.parse? (text : String) : Option Binary64 :=
  let (negative, cs) := match text.toList with
    | '-' :: cs => (true, cs)
    | '+' :: cs => (false, cs)
    | cs => (false, cs)
  if sameFolded cs "inf".toList ∨ sameFolded cs "infinity".toList then some (.infinite negative)
  else if sameFolded cs "nan".toList then some .nan
  else unsigned? negative cs

end Switchboard.Number
