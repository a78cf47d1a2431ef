import DocNumber.Text.Digits

/-!
Days of the Gregorian calendar in the years 1 to 9999, their order, their number counted from
1 January of year 1, and their text.
-/

namespace DocNumber.Calendar

def isLeap (year : Nat) : Bool :=
  year % 4 == 0 && (year % 100 != 0 || year % 400 == 0)

def monthLengths (year : Nat) : List Nat :=
  [31, if isLeap year then 29 else 28, 31, 30, 31, 30, 31, 31, 30, 31, 30, 31]

/-- Zero where there is no such month. -/
def monthLength (year month : Nat) : Nat :=
  if month = 0 then 0 else (monthLengths year).getD (month - 1) 0

def Valid (year month day : Nat) : Prop :=
  1 ≤ year ∧ year ≤ 9999 ∧ 1 ≤ month ∧ month ≤ 12 ∧ 1 ≤ day ∧ day ≤ monthLength year month

instance (year month day : Nat) : Decidable (Valid year month day) :=
  inferInstanceAs (Decidable (_ ∧ _))

structure Day where
  year : Nat
  month : Nat
  day : Nat
  valid : Valid year month day
deriving DecidableEq

namespace Day

def of? (year month day : Nat) : Option Day :=
  if h : Valid year month day then some ⟨year, month, day, h⟩ else none

/-- Two digits for the day, two for the month, the year in front. -/
def key (d : Day) : Nat :=
  (d.year * 100 + d.month) * 100 + d.day

instance : LE Day := ⟨fun a b => a.key ≤ b.key⟩

instance : LT Day := ⟨fun a b => a.key < b.key⟩

instance (a b : Day) : Decidable (a ≤ b) :=
  inferInstanceAs (Decidable (a.key ≤ b.key))

instance (a b : Day) : Decidable (a < b) :=
  inferInstanceAs (Decidable (a.key < b.key))

/-- Four digits, two and two, with dashes between. -/
def written (d : Day) : List Char :=
  Text.lastDigits 4 d.year ++ '-' :: Text.lastDigits 2 d.month ++
    '-' :: Text.lastDigits 2 d.day

def text (d : Day) : String :=
  String.ofList d.written

/-- How many days come before 1 January of `year`. -/
def daysBefore (year : Nat) : Nat :=
  let y := year - 1
  365 * y + y / 4 - y / 100 + y / 400

/-- The place of the day in the count of days; 1 January of year 1 is day one. -/
def ordinal (d : Day) : Nat :=
  ((monthLengths d.year).take (d.month - 1)).foldl (· + ·) (daysBefore d.year) + d.day

/-- The month that holds the day at `index` of a year, counted from zero, and the index in it. -/
def findMonth : List Nat → Nat → Nat → Nat × Nat
  | [], month, index => (month, index)
  | n :: ns, month, index => if index < n then (month, index) else findMonth ns (month + 1) (index - n)

/-- Four hundred years have 146097 days, a century 36524 or one more, four years 1461 or one
less. -/
def ofOrdinal? (ordinal : Nat) : Option Day :=
  if ordinal = 0 then none
  else
    let n := ordinal - 1
    let (eras, n) := (n / 146097, n % 146097)
    let centuries := min 3 (n / 36524)
    let n := n - centuries * 36524
    let (fours, n) := (n / 1461, n % 1461)
    let years := min 3 (n / 365)
    let year := eras * 400 + centuries * 100 + fours * 4 + years + 1
    let (month, index) := findMonth (monthLengths year) 1 (n - years * 365)
    of? year month (index + 1)

theorem of?_parts (d : Day) : of? d.year d.month d.day = some d := by
  simp [of?, d.valid]

end Day

end DocNumber.Calendar
