import DocNumber.Calendar.Day

/-!
Numbering rules, and the drafts that ask for one. A rule governs the document types it lists, on
the days of its window, for one department or for all.
-/

namespace DocNumber

/-- The days from `first` on, up to and with `last` if there is one. -/
structure Window where
  first : Calendar.Day
  last : Option Calendar.Day
deriving DecidableEq

def Window.contains (w : Window) (day : Calendar.Day) : Bool :=
  decide (w.first ≤ day) &&
    match w.last with
    | none => true
    | some last => decide (day ≤ last)

/-- The window ends before it starts. -/
def Window.reversed (w : Window) : Bool :=
  match w.last with
  | none => false
  | some last => decide (last < w.first)

/-- A request for a rule, as it was made. -/
structure Draft where
  name : String
  template : String
  digits : Int
  department : Option String
  types : List String
  window : Window
  priority : Int
deriving DecidableEq

/-- A rule without a department is generic: it governs where no rule of the department does. -/
structure Rule where
  id : Int
  name : String
  template : String
  width : Int
  department : Option String
  types : List String
  window : Window
  priority : Int
deriving DecidableEq

namespace Rule

def ofDraft (id : Int) (d : Draft) : Rule :=
  { id, name := d.name, template := d.template, width := d.digits, department := d.department,
    types := d.types, window := d.window, priority := d.priority }

def appliesTo (r : Rule) (documentType : String) (day : Calendar.Day) : Bool :=
  r.types.contains documentType && r.window.contains day

/-- Lower priorities come first, and of equal ones the lower number. -/
def precedes (a b : Rule) : Bool :=
  decide (a.priority < b.priority) || (a.priority == b.priority && decide (a.id ≤ b.id))

end Rule

end DocNumber
