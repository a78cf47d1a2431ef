import DocNumber.Decimal.Binary64
import DocNumber.Text.Blank
import DocNumber.Text.Digits

/-!
Reading numbers from configuration text: an optional sign, digits with a point anywhere among
them, an optional exponent; or a word for infinity or not-a-number.
-/

namespace DocNumber.Decimal

def splitSign : List Char → Bool × List Char
  | '-' :: rest => (true, rest)
  | '+' :: rest => (false, rest)
  | cs => (false, cs)

def lowerAscii (cs : List Char) : List Char :=
  cs.map fun c => if 'A' ≤ c && c ≤ 'Z' then Char.ofNat (c.toNat + 32) else c

def readExponent? : List Char → Option Int
  | [] => some 0
  | e :: rest =>
    if e == 'e' || e == 'E' then
      let (negative, ds) := splitSign rest
      (Text.readDigits? ds).map fun n => if negative then -(n : Int) else (n : Int)
    else none

/-- Digits, a point and digits, either run possibly empty but not both. -/
def readPlain? (negative : Bool) (cs : List Char) : Option Binary64 :=
  let whole := cs.takeWhile Text.isDigit
  let rest := cs.dropWhile Text.isDigit
  let (fraction, rest) :=
    match rest with
    | '.' :: r => (r.takeWhile Text.isDigit, r.dropWhile Text.isDigit)
    | _ => ([], rest)
  if whole.isEmpty && fraction.isEmpty then none
  else (readExponent? rest).map fun power =>
    Binary64.ofDecimal negative (Text.value (whole ++ fraction)) (power - fraction.length)

def readNumber? (cs : List Char) : Option Binary64 :=
  let (negative, body) := splitSign cs
  let word := lowerAscii body
  if word == "inf".toList || word == "infinity".toList then some (.infinite negative)
  else if word == "nan".toList then some .nan
  else readPlain? negative body

/-- Every underscore stands alone, between other characters. -/
def spacedUnderscores : List Char → Bool
  | [] => true
  | ['_'] => false
  | '_' :: '_' :: _ => false
  | _ :: rest => spacedUnderscores rest

/-- Surrounding white space is ignored; failing that, single underscores between characters. -/
def read? (cs : List Char) : Option Binary64 :=
  match readNumber? (Text.stripBy Text.isSpace cs) with
  | some x => some x
  | none =>
    if cs.contains '_' && cs.head? != some '_' && spacedUnderscores cs then
      readNumber? (cs.filter (· != '_'))
    else none

end DocNumber.Decimal
