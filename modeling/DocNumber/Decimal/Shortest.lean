import DocNumber.Decimal.Binary64
import DocNumber.Text.Digits

/-!
The shortest decimal text of a number: the fewest digits that read back as it, and of those the
nearest to it.
-/

namespace DocNumber.Decimal

/-- The decimals that round to a number lie between two ratios over one denominator; the ends
belong to them when `closed`. -/
structure Interval where
  low : Nat
  centre : Nat
  high : Nat
  den : Nat
  closed : Bool

/-- Half way to the next number on either side. Below a power of two the step is half as wide. -/
def Interval.around (mantissa : Nat) (exponent : Int) : Interval :=
  let narrow := mantissa == twoPower 52 && Binary64.leastExponent < exponent
  let low := if narrow then 4 * mantissa - 1 else 4 * mantissa - 2
  let (scale, den) := Binary64.ratio 1 (exponent - 2)
  { low := low * scale
    centre := 4 * mantissa * scale
    high := (4 * mantissa + 2) * scale
    den := den
    closed := mantissa % 2 == 0 }

/-- Whether `num / den` lies in the interval. -/
def Interval.holds (i : Interval) (num den : Nat) : Bool :=
  let x := num * i.den
  if i.closed then i.low * den ≤ x && x ≤ i.high * den
  else i.low * den < x && x < i.high * den

/-- Digits and the power of ten that scales them. -/
structure Numeral where
  digits : Nat
  power : Int

def Numeral.ratio (n : Numeral) : Nat × Nat :=
  match n.power with
  | .ofNat k => (n.digits * tenPower k, 1)
  | .negSucc k => (n.digits, tenPower (k + 1))

def Interval.holdsNumeral (i : Interval) (n : Numeral) : Bool :=
  let (num, den) := n.ratio
  i.holds num den

/-- The distance to the centre, as a numerator over `den * i.den`. -/
def Interval.distance (i : Interval) (num den : Nat) : Nat :=
  let x := num * i.den
  let c := i.centre * den
  if x < c then c - x else x - c

/-- The multiple of `10 ^ power` at or below the centre. -/
def Interval.floorAt (i : Interval) (power : Int) : Nat :=
  match power with
  | .ofNat k => i.centre / (i.den * tenPower k)
  | .negSucc k => i.centre * tenPower (k + 1) / i.den

/-- The nearer of the two multiples of `10 ^ power` next to the centre, if one lies inside. Of two
that are as near as each other the even one is taken. -/
def Interval.onGrid (i : Interval) (power : Int) : Option Numeral :=
  let below : Numeral := ⟨i.floorAt power, power⟩
  let above : Numeral := ⟨below.digits + 1, power⟩
  match i.holdsNumeral below, i.holdsNumeral above with
  | true, true =>
    let (a, b) := below.ratio
    let (c, d) := above.ratio
    let (down, up) := (i.distance a b, i.distance c d)
    if up < down || (up == down && below.digits % 2 == 1) then some above else some below
  | true, false => some below
  | false, true => some above
  | false, false => none

/-- Tries grids from coarse to fine, `n` of them. -/
def Interval.firstGrid (i : Interval) : Nat → Int → Option Numeral
  | 0, _ => none
  | n + 1, power =>
    match i.onGrid power with
    | some found => some found
    | none => i.firstGrid n (power - 1)

/-- The power of ten of the leading digit of `num / den`. -/
def leadingPower (num den : Nat) : Int :=
  if den ≤ num then (((Text.digits (num / den)).length : Int) - 1)
  else -(((Text.digits ((den - 1) / num)).length : Int))

def dropZeros (n : Numeral) : Numeral :=
  let trailing := ((Text.digits n.digits).reverse.takeWhile (· == '0')).length
  if n.digits == 0 then n
  else ⟨n.digits / tenPower trailing, n.power + (trailing : Int)⟩

/-- Seventeen digits always suffice; the exact expansion stands in for a search that cannot fail. -/
def shortest (mantissa : Nat) (exponent : Int) : Numeral :=
  let i := Interval.around mantissa exponent
  let start := leadingPower i.centre i.den
  dropZeros ((i.firstGrid 18 (start + 1)).getD ⟨i.floorAt (start - 17), start - 17⟩)

/-- Positional where the leading digit stands for `10 ^ -4` to `10 ^ 15`, with at least one digit
after the point; otherwise one digit before the point and a signed exponent of two digits or
more. -/
def positive (mantissa : Nat) (exponent : Int) : List Char :=
  let n := shortest mantissa exponent
  let ds := Text.digits n.digits
  let lead := n.power + (ds.length : Int) - 1
  if -4 ≤ lead ∧ lead < 16 then
    if lead < 0 then
      '0' :: '.' :: List.replicate (-lead - 1).toNat '0' ++ ds
    else
      let whole := lead.toNat + 1
      let front := ds.take whole ++ List.replicate (whole - ds.length) '0'
      let back := ds.drop whole
      front ++ '.' :: (if back.isEmpty then ['0'] else back)
  else
    let tail := ds.drop 1
    let sign := if lead < 0 then '-' else '+'
    ds.take 1 ++ (if tail.isEmpty then [] else '.' :: tail) ++
      'e' :: sign :: Text.padZeros 2 (Text.digits lead.natAbs)

def Binary64.text : Binary64 → List Char
  | .nan => ['n', 'a', 'n']
  | .infinite negative => (if negative then ['-'] else []) ++ ['i', 'n', 'f']
  | .finite negative m e =>
    (if negative then ['-'] else []) ++ (if m == 0 then ['0', '.', '0'] else positive m e)

end DocNumber.Decimal
