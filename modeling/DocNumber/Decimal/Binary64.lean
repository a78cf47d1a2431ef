import DocNumber.Decimal.Power

/-!
Binary floating point numbers of 64 bits, as exact values: a sign, a whole number and a power of
two. A decimal numeral is rounded to the nearest of them, ties to the even one.
-/

namespace DocNumber.Decimal

/-- A finite number is `± mantissa * 2 ^ exponent`. Its mantissa has 53 bits, or fewer where the
exponent is least. -/
inductive Binary64
  | finite (negative : Bool) (mantissa : Nat) (exponent : Int)
  | infinite (negative : Bool)
  | nan
deriving DecidableEq, Repr

namespace Binary64

def leastExponent : Int := -1074

def greatestExponent : Int := 971

def zero (negative : Bool) : Binary64 :=
  .finite negative 0 leastExponent

/-- The nearest whole number to `num / den`, ties to the even one. -/
def roundHalfEven (num den : Nat) : Nat :=
  let q := num / den
  let twice := 2 * (num % den)
  if twice < den || (twice == den && q % 2 == 0) then q else q + 1

/-- The ratio `num / den` in units of `2 ^ e`, rounded. -/
def scaled (num den : Nat) (e : Int) : Nat :=
  match e with
  | .ofNat k => roundHalfEven num (den * twoPower k)
  | .negSucc k => roundHalfEven (num * twoPower (k + 1)) den

/-- Rounds the positive ratio `num / den`. -/
def ofRatio (negative : Bool) (num den : Nat) : Binary64 :=
  let guess : Int := (num.log2 : Int) - (den.log2 : Int) - 52
  let e := if scaled num den guess < twoPower 52 then guess - 1 else guess
  let e := max e leastExponent
  let m := scaled num den e
  let (m, e) := if m == twoPower 53 then (twoPower 52, e + 1) else (m, e)
  if greatestExponent < e then .infinite negative else .finite negative m e

/-- The value of the numeral `± digits * 10 ^ power`. Beyond the bounds tested first the nearest
number is infinite or zero, whatever the digits. -/
def ofDecimal (negative : Bool) (digits : Nat) (power : Int) : Binary64 :=
  if digits == 0 then zero negative
  else
    let magnitude : Int := power + ((digits.log2 * 3 / 10 : Nat) : Int)
    if 400 < magnitude then .infinite negative
    else if power + ((digits.log2 * 31 / 100 + 1 : Nat) : Int) < -400 then zero negative
    else match power with
      | .ofNat k => ofRatio negative (digits * tenPower k) 1
      | .negSucc k => ofRatio negative digits (tenPower (k + 1))

/-- Greater than zero; not-a-number is not. -/
def isPositive : Binary64 → Bool
  | .finite negative m _ => !negative && m != 0
  | .infinite negative => !negative
  | .nan => false

/-- The magnitude of a finite number as a ratio. -/
def ratio (mantissa : Nat) (exponent : Int) : Nat × Nat :=
  match exponent with
  | .ofNat k => (mantissa * twoPower k, 1)
  | .negSucc k => (mantissa, twoPower (k + 1))

/-- The whole number that a finite number is, if it is one. -/
def toInt? : Binary64 → Option Int
  | .finite negative m e =>
    let (num, den) := ratio m e
    if num % den == 0 then
      some (if negative then -((num / den : Nat) : Int) else ((num / den : Nat) : Int))
    else none
  | _ => none

/-- Strictly below the ratio `num / den`. -/
def lessThanRatio (num den : Nat) : Binary64 → Bool
  | .finite negative m e =>
    let (a, b) := ratio m e
    if negative then m != 0 || 0 < num else a * den < num * b
  | .infinite negative => negative
  | .nan => false

end Binary64

end DocNumber.Decimal
