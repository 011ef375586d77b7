import Switchboard.Number.Binary64

/-!
# The fewest decimal digits of a double

The reals that round to a positive double form an interval around it. `shortest` walks the decimal
grids from the coarsest to the finest and stops at the first that has a point in the interval. Only
the two grid points next to the number need a look: if any point of a grid lies in the interval,
one of these does.
-/

namespace Switchboard.Number

/-- A positive decimal: `digits * 10 ^ exponent`. -/
structure Decimal where
  digits : Nat
  exponent : Int
  deriving DecidableEq, Repr, Inhabited

/-- Which of two equally near decimals is taken. -/
inductive Tie where
  | even
  | up
  deriving DecidableEq, Repr

/-- An interval of reals, its bounds and an inner value given as multiples of one unit. -/
structure Interval where
  low : Nat
  value : Nat
  high : Nat
  closed : Bool
  unit : Int
  deriving Repr

namespace Interval

/-- The reals that round to `mantissa * 2 ^ exponent`. The bounds themselves belong to it when the
mantissa is even, since a half rounds to even; below a power of two the gap is half as wide. -/
def ofBinary (mantissa : Nat) (exponent : Int) : Interval :=
  let narrow := mantissa = Binary64.leastFull ∧ exponent > Binary64.leastExponent
  { low := 4 * mantissa - (if narrow then 1 else 2)
    value := 4 * mantissa
    high := 4 * mantissa + 2
    closed := mantissa % 2 = 0
    unit := exponent - 2 }

/-- Whether `k * 10 ^ e` lies in the interval. -/
def contains (i : Interval) (k : Nat) (e : Int) : Bool :=
  let point := k * Nat.pow 10 e.toNat * Nat.pow 2 (-i.unit).toNat
  let scale := Nat.pow 10 (-e).toNat * Nat.pow 2 i.unit.toNat
  if i.closed then i.low * scale ≤ point && point ≤ i.high * scale
  else i.low * scale < point && point < i.high * scale

/-- The inner value divided by `10 ^ e`, as a fraction. -/
def overPower (i : Interval) (e : Int) : Nat × Nat :=
  (i.value * Nat.pow 10 (-e).toNat * Nat.pow 2 i.unit.toNat,
   Nat.pow 10 e.toNat * Nat.pow 2 (-i.unit).toNat)

/-- The point of the grid `10 ^ e` in the interval; of two the nearer one. -/
def gridPoint? (i : Interval) (tie : Tie) (e : Int) : Option Nat :=
  let (num, den) := i.overPower e
  let below := num / den
  let first := below ≠ 0 && i.contains below e
  let second := i.contains (below + 1) e
  match first, second with
  | true, true =>
    if 2 * (num % den) < den then some below
    else if den < 2 * (num % den) then some (below + 1)
    else match tie with
      | .even => some (below + below % 2)
      | .up => some (below + 1)
  | true, false => some below
  | false, true => some (below + 1)
  | false, false => none

/-- The first grid with a point in the interval, trying `10 ^ e`, `10 ^ (e - 1)` and so on. -/
def firstGrid (i : Interval) (tie : Tie) : Nat → Int → Decimal
  | 0, e => { digits := (i.gridPoint? tie e).getD 0, exponent := e }
  | fuel + 1, e =>
    match i.gridPoint? tie e with
    | some k => { digits := k, exponent := e }
    | none => firstGrid i tie fuel (e - 1)

end Interval

/-- The decimal exponent of the first digit of `m * 2 ^ e`, or one more. -/
def leadingPower (m : Nat) (e : Int) : Int :=
  ((Nat.log2 m + 1 : Int) + e) * 30103 / 100000 + 1

/-- The shortest decimal that rounds to `m * 2 ^ e`, and of those the nearest. Seventeen digits
always suffice; the grids tried begin a little above the number. -/
def shortest (tie : Tie) (m : Nat) (e : Int) : Decimal :=
  (Interval.ofBinary m e).firstGrid tie 20 (leadingPower m e)

end Switchboard.Number
