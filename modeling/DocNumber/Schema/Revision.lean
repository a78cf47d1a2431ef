import DocNumber.Text.Digits

/-!
Revisions of the tables. There is one, and before it there is nothing. A move goes up or down to a
named revision or by a number of steps.
-/

namespace DocNumber.Schema

def headName : String := "4a8e2c1d7b90"

/-- Where the tables stand. -/
inductive Level
  | base
  | head
deriving DecidableEq, Repr

inductive Target
  | at (level : Level)
  | up (steps : Nat)
  | down (steps : Nat)
deriving DecidableEq, Repr

/-- A revision goes by its name or by the start of it. -/
def Level.ofName? (s : String) : Option Level :=
  if s == "base" then some .base
  else if s == "head" || s == "heads" then some .head
  else if !s.isEmpty && s.toList.isPrefixOf headName.toList then some .head
  else none

def Target.ofText? (s : String) : Option Target :=
  match s.toList with
  | '+' :: ds => (Text.readDigits? ds).map Target.up
  | '-' :: ds => (Text.readDigits? ds).map Target.down
  | _ => (Level.ofName? s).map Target.at

/-- Where going up leads; none where that many steps do not exist. -/
def Target.above? (t : Target) (now : Level) : Option Level :=
  match t, now with
  | .at .head, _ => some .head
  | .at .base, now => some now
  | .up 1, .base => some .head
  | .up 0, now => some now
  | _, _ => none

/-- Where going down leads; a revision further up cannot be reached. -/
def Target.below? (t : Target) (now : Level) : Option Level :=
  match t, now with
  | .at .base, _ => some .base
  | .at .head, .head => some .head
  | .down 1, .head => some .base
  | .down 0, now => some now
  | _, _ => none

end DocNumber.Schema
