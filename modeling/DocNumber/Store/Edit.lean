import DocNumber.Store.Table

/-!
Changes made to rows and counters directly, without the checks that new rules go through. The
table still keeps its own constraints.
-/

namespace DocNumber.Store

/-- A new value for one column of a rule. -/
inductive Change
  | name (s : String)
  | template (s : String)
  | width (n : Int)
  | department (code : Option String)
  | types (codes : List String)
  | first (day : Calendar.Day)
  | last (day : Option Calendar.Day)
  | priority (n : Int)

def Change.apply (r : Rule) : Change → Rule
  | .name s => { r with name := s }
  | .template s => { r with template := s }
  | .width n => { r with width := n }
  | .department code => { r with department := code }
  | .types codes => { r with types := codes }
  | .first day => { r with window := { r.window with first := day } }
  | .last day => { r with window := { r.window with last := day } }
  | .priority n => { r with priority := n }

def edited (changes : List Change) (r : Rule) : Rule :=
  changes.foldl Change.apply r

def State.edit (s : State) (id : Int) (changes : List Change) : State :=
  { s with
    rules := s.rules.map fun r => if r.id == id then edited changes r else r
    nextId_eq := by simp [s.nextId_eq] }

namespace Table

/-- The constraints of the table on a row. -/
def admits (r : Rule) : Bool :=
  decide (1 ≤ r.width) && !r.window.reversed

def edit (id : Int) (changes : List Change) (s : State) : Except Failure Unit × State :=
  let next := s.edit id changes
  let rows := next.rules.filter fun r => r.id == id
  if !(fits id && rows.all fun r => fits r.width && fits r.priority) then
    (.error (.storage .overflow), s)
  else if rows.all admits then (.ok (), next)
  else (.error (.storage .integrity), s)

def setCounter (scope : Scope) (n : Int) (s : State) : Except Failure Unit × State :=
  if !(fits scope.rule && fits scope.year && fits scope.month && fits n) then
    (.error (.storage .overflow), s)
  else if (s.rule? scope.rule).isSome then (.ok (), s.putCounter scope n)
  else (.error (.storage .integrity), s)

end Table

end DocNumber.Store
