import DocNumber.Calendar.Day
import DocNumber.Decimal.Binary64

/-!
Days in the looser forms that requests may use: a plain date, a date and a time that must be
midnight, or a count of seconds or milliseconds since 1970 that falls on a midnight.
-/

namespace DocNumber.Calendar

inductive DayFault
  | unreadable
  | notMidnight
  | noSuchDay
deriving DecidableEq, Repr

/-- A day before it is known to exist; year 0 may appear here. -/
structure LooseDay where
  year : Nat
  month : Nat
  day : Nat

/-- The same length as in year 400, as far as leap years go. -/
def LooseDay.check (d : LooseDay) : Option LooseDay :=
  if 1 ≤ d.month ∧ d.month ≤ 12 ∧ 1 ≤ d.day ∧ d.day ≤ monthLength d.year d.month then some d
  else none

def LooseDay.toDay (d : LooseDay) : Except DayFault Day :=
  match Day.of? d.year d.month d.day with
  | some day => .ok day
  | none => .error .noSuchDay

/-- Takes a date in the form `YYYY-MM-DD`. -/
def takeDate? (cs : List Char) : Option (LooseDay × List Char) := do
  let (year, rest) ← Text.takeDigits? 4 cs
  let '-' :: rest := rest | none
  let (month, rest) ← Text.takeDigits? 2 rest
  let '-' :: rest := rest | none
  let (day, rest) ← Text.takeDigits? 2 rest
  let date ← LooseDay.check ⟨year, month, day⟩
  return (date, rest)

/-- The seconds and their fraction, if they are written. Six digits of the fraction count. -/
def takeSeconds? (cs : List Char) : Option (Bool × List Char) :=
  match cs with
  | ':' :: rest =>
    match Text.takeDigits? 2 rest with
    | none => none
    | some (second, rest) =>
      if 59 < second then none
      else
        match rest with
        | c :: more =>
          if c == '.' || c == ',' then
            let ds := more.takeWhile Text.isDigit
            if ds.isEmpty then none
            else some (second == 0 && Text.value (ds.take 6) == 0, more.dropWhile Text.isDigit)
          else some (second == 0, rest)
        | [] => some (second == 0, [])
  | _ => some (true, cs)

/-- A zone: nothing, `Z`, or a signed offset of less than a day. -/
def isZone (cs : List Char) : Bool :=
  match cs with
  | [] => true
  | ['Z'] => true
  | ['z'] => true
  | sign :: rest =>
    if sign == '+' || sign == '-' || sign == '\u2212' then
      match Text.takeDigits? 2 rest with
      | none => false
      | some (hours, rest) =>
        let rest :=
          match rest with
          | ':' :: r => r
          | _ => rest
        match Text.takeDigits? 2 rest with
        | some (minutes, []) => minutes < 60 && hours * 60 + minutes < 1440
        | _ => false
    else false

/-- Reads `HH:MM`, seconds and zone, and says whether the time is midnight. -/
def readClock? (cs : List Char) : Option Bool := do
  let (hour, rest) ← Text.takeDigits? 2 cs
  let ':' :: rest := rest | none
  let (minute, rest) ← Text.takeDigits? 2 rest
  if 23 < hour ∨ 59 < minute then none
  let (still, rest) ← takeSeconds? rest
  if isZone rest then some (hour == 0 && minute == 0 && still) else none

/-- Seconds between 1 January of year 0 and of 1970. -/
def secondsBefore1970 : Int := 62167219200

/-- The last second of year 9999, counted from 1970. -/
def lastSecond : Int := 253402300799

/-- Counts beyond twenty thousand million are milliseconds. -/
def millisecondsFrom : Int := 20000000000

/-- A count with a part in millionths: exact seconds, and what is left of a second. -/
def fromCount (count : Int) (millionths : Nat) : Except DayFault Day :=
  let (seconds, extra) :=
    if count.natAbs > millisecondsFrom.toNat then
      (count.fdiv 1000, (count.fmod 1000).toNat * 1000)
    else (count, 0)
  let micros := extra + millionths
  let seconds := seconds + ((micros / 1000000 : Nat) : Int)
  if seconds < -secondsBefore1970 ∨ lastSecond < seconds then .error .unreadable
  else if micros % 1000000 ≠ 0 ∨ seconds.fmod 86400 ≠ 0 then .error .notMidnight
  else
    let sinceYearZero := (seconds.fdiv 86400 + 719528).toNat
    if sinceYearZero < 366 then .error .noSuchDay
    else
      match Day.ofOrdinal? (sinceYearZero - 365) with
      | some day => .ok day
      | none => .error .unreadable

def ofInt (n : Int) : Except DayFault Day :=
  if -(Decimal.wordBound : Int) ≤ n ∧ n < Decimal.wordBound then fromCount n 0 else .error .unreadable

/-- Millionths in `num / den`, a half rounding up. -/
def toMillionths (num den : Nat) : Nat :=
  (2 * num * 1000000 + den) / (2 * den)

/-- A number with a fraction. The fraction of a negative number is taken without its sign. -/
def ofReal : Decimal.Binary64 → Except DayFault Day
  | .finite negative m e =>
    let (num, den) := Decimal.Binary64.ratio m e
    let whole : Int := (num / den : Nat)
    let part := num % den
    let floor := if negative then (if part = 0 then -whole else -whole - 1) else whole
    if (Decimal.wordBound : Int) ≤ whole then .error .unreadable
    else fromCount floor (toMillionths part den)
  | _ => .error .unreadable

/-- A number written with a point. Here the fraction counts from the whole number below. -/
def ofRealText (x : Decimal.Binary64) : Except DayFault Day :=
  match x with
  | .finite true m e =>
    let (num, den) := Decimal.Binary64.ratio m e
    let part := num % den
    if part = 0 then ofReal x
    else if Decimal.wordBound ≤ num / den then .error .unreadable
    else fromCount (-((num / den : Nat) : Int) - 1) (toMillionths (den - part) den)
  | _ => ofReal x

/-- Digits with an optional sign, and an optional point with more digits. -/
def ofNumberText (cs : List Char) : Except DayFault Day :=
  let (negative, body) :=
    match cs with
    | '-' :: r => (true, r)
    | '+' :: r => (false, r)
    | _ => (false, cs)
  let whole := body.takeWhile Text.isDigit
  if whole.isEmpty ∨ Decimal.wordBound ≤ Text.value whole then .error .unreadable
  else
    match body.dropWhile Text.isDigit with
    | [] => ofInt (if negative then -(Text.value whole : Int) else Text.value whole)
    | '.' :: fraction =>
      if fraction.all Text.isDigit then
        ofRealText (.ofDecimal negative (Text.value (whole ++ fraction)) (-(fraction.length : Int)))
      else .error .unreadable
    | _ => .error .unreadable

def ofText (s : String) : Except DayFault Day :=
  let cs := s.toList
  match takeDate? cs with
  | some (date, []) => date.toDay
  | some (date, mark :: rest) =>
    if mark == 'T' || mark == 't' || mark == ' ' || mark == '_' then
      match readClock? rest with
      | some true => date.toDay
      | some false => .error .notMidnight
      | none => .error .unreadable
    else .error .unreadable
  | none => ofNumberText cs

end DocNumber.Calendar
