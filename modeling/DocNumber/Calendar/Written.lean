import DocNumber.Calendar.Day

/-!
Days as seed files write them: year, month and day with dashes or without, or year, week and day
of the week. A text of seven, eight or ten bytes is read; what follows a complete day in it is
ignored.
-/

namespace DocNumber.Calendar

/-- Monday is zero. -/
def weekday (ordinal : Nat) : Nat :=
  (ordinal + 6) % 7

/-- The Monday of the week that holds the first Thursday of `year`. -/
def firstMonday (year : Nat) : Nat :=
  let newYear := Day.daysBefore year + 1
  let back := weekday newYear
  if 3 < back then newYear + 7 - back else newYear - back

/-- A year has a week 53 when it starts on a Thursday, or on a Wednesday and is a leap year. -/
def isLongYear (year : Nat) : Bool :=
  let start := weekday (Day.daysBefore year + 1)
  start == 3 || (start == 2 && isLeap year)

def ofWeek? (year week day : Nat) : Option Day :=
  if 1 ≤ year ∧ 1 ≤ week ∧ (week ≤ 52 ∨ (week = 53 ∧ isLongYear year = true)) ∧
      1 ≤ day ∧ day ≤ 7 then
    Day.ofOrdinal? (firstMonday year + (week - 1) * 7 + (day - 1))
  else none

/-- Removes a dash when one is due. -/
def skipDash? (due : Bool) (cs : List Char) : Option (List Char) :=
  if due then
    match cs with
    | '-' :: rest => some rest
    | _ => none
  else some cs

/-- The week, and the day of the week, which is Monday when left out. -/
def readWeek? (year : Nat) (dashed : Bool) (cs : List Char) : Option Day :=
  match Text.takeDigits? 2 cs with
  | none => none
  | some (week, []) => ofWeek? year week 1
  | some (week, rest) => do
    let rest ← skipDash? dashed rest
    let (day, _) ← Text.takeDigits? 1 rest
    ofWeek? year week day

def readMonth? (year : Nat) (dashed : Bool) (cs : List Char) : Option Day := do
  let (month, rest) ← Text.takeDigits? 2 cs
  let rest ← skipDash? dashed rest
  let (day, _) ← Text.takeDigits? 2 rest
  Day.of? year month day

def readParts? (cs : List Char) : Option Day :=
  match Text.takeDigits? 4 cs with
  | none => none
  | some (year, rest) =>
    let (dashed, rest) :=
      match rest with
      | '-' :: r => (true, r)
      | _ => (false, rest)
    match rest with
    | 'W' :: r => readWeek? year dashed r
    | _ => readMonth? year dashed rest

def readWritten? (s : String) : Option Day :=
  let bytes := s.utf8ByteSize
  if bytes = 7 ∨ bytes = 8 ∨ bytes = 10 then readParts? s.toList else none

end DocNumber.Calendar
