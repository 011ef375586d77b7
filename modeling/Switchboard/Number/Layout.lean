import Switchboard.Number.Shortest

/-!
# Where the point goes

`Layout` says how a shortest decimal is written: at which exponents positionally, and whether a
whole number keeps a fraction. `json` is the layout of documents, `plain` that of running text.
-/

namespace Switchboard.Number

/-- How the digits of a number are laid out. -/
structure Layout where
  /-- The exponents of the first digit for which no exponent is written; `none` is all of them. -/
  positional : Option (Int × Int)
  /-- Whether a whole number is followed by `.0`. -/
  wholeFraction : Bool
  tie : Tie
  nan : String
  infinite : String

namespace Layout

/-- Documents: an exponent outside of `10 ^ -5` to `10 ^ 15`, and always a mark that tells a double
from an integer. A document has no other numbers than finite ones. -/
def json : Layout :=
  { positional := some (-5, 15), wholeFraction := true, tie := .even,
    nan := "null", infinite := "null" }

/-- Running text: all digits, with no exponent. -/
def plain : Layout :=
  { positional := none, wholeFraction := false, tie := .up, nan := "NaN", infinite := "inf" }

/-- The digits of a natural number, the highest first. -/
def digitsOf (n : Nat) : List Char := Nat.toDigits 10 n

/-- Digits and exponent with the trailing zeros moved into the exponent. -/
def normalise (d : Decimal) : List Char × Int :=
  let cs := digitsOf d.digits
  let kept := (cs.reverse.dropWhile (· == '0')).reverse
  (kept, d.exponent + (cs.length - kept.length : Int))

/-- The digits with a point in its place: `exponent` is that of the last digit. -/
def pointed (whole : Bool) (ds : List Char) (exponent : Int) : List Char :=
  if exponent ≥ 0 then
    ds ++ List.replicate exponent.toNat '0' ++ (if whole then ['.', '0'] else [])
  else
    let places := (-exponent).toNat
    if places < ds.length then
      ds.take (ds.length - places) ++ '.' :: ds.drop (ds.length - places)
    else
      '0' :: '.' :: List.replicate (places - ds.length) '0' ++ ds

/-- One digit before the point, then the exponent with its sign. -/
def scientific (ds : List Char) (leading : Int) : List Char :=
  let mantissa := match ds with
    | [] => ['0']
    | [d] => [d]
    | d :: rest => d :: '.' :: rest
  mantissa ++ 'e' :: (if leading < 0 then '-' else '+') :: digitsOf leading.natAbs

def positive (l : Layout) (d : Decimal) : List Char :=
  let (ds, exponent) := normalise d
  let leading := exponent + ds.length - 1
  match l.positional with
  | none => pointed l.wholeFraction ds exponent
  | some (low, high) =>
    if low ≤ leading ∧ leading ≤ high then pointed l.wholeFraction ds exponent
    else scientific ds leading

/-- The text of a number. -/
def chars (l : Layout) : Binary64 → List Char
  | .nan => l.nan.toList
  | .infinite s => (if s then ['-'] else []) ++ l.infinite.toList
  | .finite s m e =>
    (if s then ['-'] else []) ++
      (if m = 0 then (if l.wholeFraction then ['0', '.', '0'] else ['0'])
      else l.positive (shortest l.tie m e))

def render (l : Layout) (x : Binary64) : String := String.ofList (l.chars x)

end Layout

end Switchboard.Number
