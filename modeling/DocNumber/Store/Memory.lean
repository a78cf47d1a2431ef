import DocNumber.Fault.Refusal
import DocNumber.Rule.Choice
import DocNumber.Rule.Draft
import DocNumber.Store.Page
import DocNumber.Store.State

/-!
The store in memory. It looks at rules as values, and at all of them each time.
-/

namespace DocNumber.Store.Memory

def create (d : Draft) (s : State) : Except Failure Rule × State :=
  match d.accept with
  | .error r => (.error (.refused r), s)
  | .ok d =>
    let r := Rule.ofDraft s.nextId d
    (.ok r, s.addRule r)

def get (id : Int) (s : State) : Option Rule :=
  s.rule? id

def find (documentType department : String) (day : Calendar.Day) (s : State) : Option Rule :=
  Rule.pick s.rules documentType department day

/-- Sorts first and filters then. -/
def search (f : Filters) (limit offset : Int) (s : State) : Page :=
  let rows := ordered s.rules
  let rows :=
    match f.department with
    | none => rows
    | some code => rows.filter fun r => r.department == some code
  let rows :=
    match f.documentType with
    | none => rows
    | some code => rows.filter fun r => r.types.contains code
  let rows :=
    match f.activeOn with
    | none => rows
    | some day => rows.filter fun r => r.window.contains day
  ⟨slice offset limit rows, rows.length⟩

/-- Adds one and compares with the greatest value allowed. -/
def next (scope : Scope) (greatest : Int) (s : State) : Except Failure Int × State :=
  let n := s.counters.last scope + 1
  if greatest < n then (.error (.refused (.exhausted scope greatest)), s)
  else (.ok n, s.putCounter scope n)

def hasNumber (number : String) (s : State) : Bool :=
  s.known.contains number

end DocNumber.Store.Memory
