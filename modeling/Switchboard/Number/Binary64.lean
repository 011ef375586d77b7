/-!
# Double-precision numbers

A finite double is a sign, a mantissa and a power of two, so every operation here is exact
arithmetic on natural numbers followed by one rounding. `Binary64.ofRatio` is that rounding: the
nearest double, a half going to the even mantissa. Conversion from integers, products, quotients
and decimal readings are all quotients handed to it.
-/

namespace Switchboard.Number

/-- A double. In a finite one the mantissa is below twice the least full mantissa, and it is not
below that mantissa unless the exponent is the least one. -/
inductive Binary64 where
  | finite (negative : Bool) (mantissa : Nat) (exponent : Int)
  | infinite (negative : Bool)
  | nan
  deriving DecidableEq, Repr, Inhabited

namespace Binary64

/-- The least mantissa of 53 binary digits, `2 ^ 52`. -/
def leastFull : Nat := 4503599627370496

/-- The exponent of the subnormal numbers. -/
def leastExponent : Int := -1074

/-- The exponent of the largest finite numbers. -/
def greatestExponent : Int := 971

def zero (negative : Bool) : Binary64 := .finite negative 0 leastExponent

def isFinite : Binary64 → Bool
  | .finite .. => true
  | _ => false

def isZero : Binary64 → Bool
  | .finite _ m _ => m == 0
  | _ => false

/-- The same number with the other sign. -/
def neg : Binary64 → Binary64
  | .finite s m e => .finite (!s) m e
  | .infinite s => .infinite (!s)
  | .nan => .nan

/-- The numerator and denominator of `num / den * 2 ^ (-e)`. One of the two powers is 1. -/
def scaleRatio (num den : Nat) (e : Int) : Nat × Nat :=
  (num * Nat.pow 2 (-e).toNat, den * Nat.pow 2 e.toNat)

/-- The natural number nearest to `num / den`; a half goes to the even neighbour. -/
def roundRatio (num den : Nat) : Nat :=
  let q := num / den
  let r := num % den
  if 2 * r < den then q
  else if den < 2 * r then q + 1
  else q + q % 2

/-- The exponent at which `num / den` has a mantissa of 53 binary digits. -/
def exponentOf (num den : Nat) : Int :=
  let guess : Int := (Nat.log2 num : Int) - (Nat.log2 den : Int) - 52
  let (n, d) := scaleRatio num den guess
  if n < leastFull * d then guess - 1 else guess

/-- The double nearest to `num / den`, with the given sign; too large a quotient is infinite. -/
def ofRatio (negative : Bool) (num den : Nat) : Binary64 :=
  if num = 0 then zero negative else
  let e := max (exponentOf num den) leastExponent
  let (n, d) := scaleRatio num den e
  let m := roundRatio n d
  let (m, e) := if m = 2 * leastFull then (leastFull, e + 1) else (m, e)
  if e > greatestExponent then .infinite negative else .finite negative m e

/-- The double nearest to an integer. -/
def ofInt (i : Int) : Binary64 := ofRatio (i < 0) i.natAbs 1

/-- The double nearest to `10 ^ k`. -/
def powerOfTen (k : Nat) : Binary64 := ofRatio false (Nat.pow 10 k) 1

/-- The rounded product of finite numbers; a product with another number is `nan`. -/
def mul : Binary64 → Binary64 → Binary64
  | .finite s m e, .finite t n f =>
    let (num, den) := scaleRatio (m * n) 1 (-(e + f))
    ofRatio (s != t) num den
  | _, _ => .nan

/-- The rounded quotient of finite numbers, the divisor not being zero; any other is `nan`. -/
def div : Binary64 → Binary64 → Binary64
  | .finite s m e, .finite t n f =>
    if n = 0 then .nan else
    let (num, den) := scaleRatio m n (f - e)
    ofRatio (s != t) num den
  | _, _ => .nan

/-- The double nearest to `digits * 10 ^ exponent`. Numbers that are out of range by their count of
digits alone are not computed. -/
def ofDecimal (negative : Bool) (digits : Nat) (exponent : Int) : Binary64 :=
  if digits = 0 then zero negative else
  let size : Int := Nat.log2 digits / 3 + 1
  if exponent > 400 then .infinite negative
  else if exponent + size < -400 then zero negative
  else ofRatio negative (digits * Nat.pow 10 exponent.toNat) (Nat.pow 10 (-exponent).toNat)

end Binary64

end Switchboard.Number
