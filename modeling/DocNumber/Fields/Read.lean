import DocNumber.Calendar.Instant
import DocNumber.Fields.Issue
import DocNumber.Text.Blank

/-!
Reading field values. Whole numbers and days are read leniently: a whole number may come as a
truth value, as a number without a fraction, or as text.
-/

namespace DocNumber.Fields

def readText : Json → Checked String
  | .text s => .ok s
  | _ => .fault .notText

/-- Digits with single underscores between them, and a point followed by zeros. -/
def readIntDigits? (cs : List Char) : Option Nat :=
  let body := cs.takeWhile (· != '.')
  let zeros := cs.dropWhile (· != '.')
  let runs := body.splitOn '_'
  let endsWell :=
    match zeros with
    | [] => true
    | _ :: ds => !ds.isEmpty && ds.all (· == '0')
  if endsWell && runs.all fun r => !r.isEmpty && r.all Text.isDigit then
    some (Text.value runs.flatten)
  else none

def readIntText (s : String) : Except Problem Int :=
  let cs := Text.stripBy Text.isSpace s.toList
  if Text.longestInteger < cs.length then .error .oversizeInt
  else
    let (negative, body) :=
      match cs with
      | '-' :: r => (true, r)
      | '+' :: r => (false, r)
      | _ => (false, cs)
    match readIntDigits? body with
    | some n => .ok (if negative then -(n : Int) else n)
    | none => .error .unreadableInt

/-- A number without a fraction, below the bound of a signed 64-bit word. -/
def readIntReal : Decimal.Binary64 → Except Problem Int
  | .finite negative m e =>
    match Decimal.Binary64.toInt? (.finite negative m e) with
    | none => .error .fractionalInt
    | some n => if n.natAbs < Decimal.wordBound then .ok n else .error .oversizeInt
  | _ => .error .notFinite

def readInt (v : Json) : Checked Int :=
  let found : Except Problem Int :=
    match v with
    | .int n => .ok n
    | .bool b => .ok (if b then 1 else 0)
    | .real x => readIntReal x
    | .text s => readIntText s
    | _ => .error .notInt
  found.mapError fun p => [⟨p, []⟩]

def ofDayFault : Calendar.DayFault → Problem
  | .unreadable => .unreadableDay
  | .notMidnight => .notMidnight
  | .noSuchDay => .noSuchDay

def readDay (v : Json) : Checked Calendar.Day :=
  let read (d : Except Calendar.DayFault Calendar.Day) : Checked Calendar.Day :=
    d.mapError fun f => [⟨ofDayFault f, []⟩]
  match v with
  | .text s => read (Calendar.ofText s)
  | .int n => read (Calendar.ofInt n)
  | .real x => read (Calendar.ofReal x)
  | _ => .fault .notDay

def nullable {α : Type} (read : Json → Checked α) : Json → Checked (Option α)
  | .null => .ok none
  | v => (read v).map some

/-- Reads every element, numbered from `n` on. -/
def readFrom {α : Type} (read : Json → Checked α) (n : Nat) : List Json → Checked (List α)
  | [] => .ok []
  | v :: vs =>
    let head := Checked.under (.index n) (read v)
    Checked.ap (head.map fun x xs => x :: xs) (readFrom read (n + 1) vs)

def readList {α : Type} (read : Json → Checked α) : Json → Checked (List α)
  | .list items => readFrom read 0 items
  | _ => .fault .notList

/-- A field that must be there. -/
def required {α : Type} (ms : Json.Members) (name : String) (read : Json → Checked α) : Checked α :=
  match Json.Members.find? ms name with
  | none => .error [⟨.missing, [.name name]⟩]
  | some v => Checked.under (.name name) (read v)

/-- A field that takes `default` when it is absent. -/
def optional {α : Type} (ms : Json.Members) (name : String) (default : α)
    (read : Json → Checked α) : Checked α :=
  match Json.Members.find? ms name with
  | none => .ok default
  | some v => Checked.under (.name name) (read v)

end DocNumber.Fields
