import DocNumber.Decimal.Power
import DocNumber.Fault.Refusal
import DocNumber.Rule.Choice
import DocNumber.Rule.Draft
import DocNumber.Store.Page
import DocNumber.Store.State

/-!
The store in a relational table. Days are kept and compared as text, whole numbers must fit a
signed 64-bit word, a counter belongs to a rule that exists, and a counter that does not exist yet
starts at one.
-/

namespace DocNumber.Store.Table

def fits (n : Int) : Bool :=
  decide (-(Decimal.wordBound : Int) ≤ n) && decide (n < Decimal.wordBound)

/-- The order of texts: the first character that differs decides, and a text comes after its own
beginnings. -/
def textNotAfter : List Char → List Char → Bool
  | [], _ => true
  | _ :: _, [] => false
  | c :: cs, d :: ds => decide (c.toNat < d.toNat) || (c == d && textNotAfter cs ds)

/-- Compares days by their text. -/
def notAfter (a b : Calendar.Day) : Bool :=
  textNotAfter a.written b.written

def inWindow (day : Calendar.Day) (w : Window) : Bool :=
  notAfter w.first day &&
    match w.last with
    | none => true
    | some last => notAfter day last

/-- One more than the greatest number in use. -/
def nextId (rules : List Rule) : Int :=
  rules.foldl (fun n r => max n r.id) 0 + 1

/-- A table with no number left for another row is full. -/
def create (d : Draft) (s : State) : Except Failure Rule × State :=
  match d.accept with
  | .error r => (.error (.refused r), s)
  | .ok d =>
    if !fits d.priority then (.error (.storage .overflow), s)
    else if fits (nextId s.rules) then
      let r := Rule.ofDraft (nextId s.rules) d
      (.ok r, s.addRule r)
    else (.error (.storage .unavailable), s)

def get (id : Int) (s : State) : Except Failure (Option Rule) :=
  if fits id then .ok (s.rule? id) else .error (.storage .overflow)

/-- The window and the department are tested on the rows, the document type on what is left. -/
def find (documentType department : String) (day : Calendar.Day) (s : State) : Option Rule :=
  let rows := s.rules.filter fun r =>
    inWindow day r.window && (r.department == some department || r.department == none)
  Rule.pick rows documentType department day

def conditions (f : Filters) (r : Rule) : Bool :=
  (match f.department with
    | none => true
    | some code => r.department == some code) &&
  (match f.activeOn with
    | none => true
    | some day => inWindow day r.window)

/-- Filters first and sorts then. With a document type the page is cut from the rows in hand,
without one the table cuts it. -/
def search (f : Filters) (limit offset : Int) (s : State) : Except Failure Page :=
  let rows := ordered (s.rules.filter (conditions f))
  match f.documentType with
  | some code =>
    let rows := rows.filter fun r => r.types.contains code
    .ok ⟨slice offset limit rows, rows.length⟩
  | none =>
    if fits limit && fits offset then
      .ok ⟨limited offset limit rows, (s.rules.filter (conditions f)).length⟩
    else .error (.storage .overflow)

/-- Inserts a first value of one, or adds one where the last value is below the greatest. -/
def next (scope : Scope) (greatest : Int) (s : State) : Except Failure Int × State :=
  if !(fits scope.rule && fits scope.year && fits scope.month && fits greatest) then
    (.error (.storage .overflow), s)
  else
    match s.counters.last? scope with
    | some n =>
      if n < greatest then (.ok (n + 1), s.putCounter scope (n + 1))
      else (.error (.refused (.exhausted scope greatest)), s)
    | none =>
      if (s.rule? scope.rule).isSome then (.ok 1, s.putCounter scope 1)
      else (.error (.storage .integrity), s)

end DocNumber.Store.Table
