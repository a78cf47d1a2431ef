import DocNumber.Request
import DocNumber.Store.Engine
import DocNumber.Template.Render

/-!
What issues numbers: a store, the way it allocates, and how far issued numbers are compared with
the known ones.
-/

namespace DocNumber

/-- The greatest value that a rule can hand out in one scope. -/
def Rule.limit (r : Rule) : Except Template.Obstacle Nat :=
  Template.sequenceLimit r.template.toList r.width

/-- Why a rule without a limit hands out no value in a scope. -/
def Rule.unlimited (r : Rule) (scope : Store.Scope) : Template.Obstacle → Refusal
  | .fault f => .template r.template f
  | .negativeWidth w => .noneFits scope w

namespace Issuing

open Store

/-- How the store hands out values: at once, after a long wait that follows the change, or never. -/
inductive Allocation
  | prompt
  | slow
  | failing
deriving DecidableEq, Repr

structure Service where
  engine : Engine
  allocation : Allocation
  guarded : Bool
  attempts : Nat

namespace Service

def next (v : Service) (scope : Scope) (greatest : Int) (s : State) : Outcome Int :=
  match v.allocation with
  | .failing => ⟨.error (.storage .unavailable), s, []⟩
  | _ => v.engine.next scope greatest s

/-- The next value of a scope of a rule, within the rule's limit. -/
def allocate (v : Service) (r : Rule) (year month : Int) (department : String) (s : State) :
    Outcome Int :=
  let scope : Scope := ⟨r.id, year, month, department⟩
  match r.limit with
  | .error o => ⟨.error (.refused (r.unlimited scope o)), s, []⟩
  | .ok limit => v.next scope limit s

def resolve (v : Service) (documentType department : String) (day : Calendar.Day) (s : State) :
    Except Failure Rule :=
  match v.engine.find documentType department day s with
  | .error f => .error f
  | .ok (some r) => .ok r
  | .ok none => .error (.refused (.noRule documentType department day))

end Service

/-- A number handed out, the rule and value it comes from, and the template it was made with. -/
structure Issued where
  number : String
  rule : Int
  sequence : Int
  template : String
deriving DecidableEq

def scopeOf (r : Rule) (q : Request) : Scope :=
  ⟨r.id, q.day.year, q.day.month, q.department⟩

def context (r : Rule) (q : Request) (n : Int) : Template.Context :=
  { year := q.day.year
    month := q.day.month
    sequence := n
    defaultWidth := r.width
    department := some q.department
    documentType := some q.documentType }

/-- The number that a rule prints for a value. -/
def number (r : Rule) (q : Request) (n : Int) : Except Template.Obstacle Issued :=
  (Template.render r.template.toList (context r q n)).map fun cs =>
    ⟨String.ofList cs, r.id, n, r.template⟩

/-- What a call fails with whose number cannot be printed. -/
def unprinted (r : Rule) : Template.Obstacle → Failure
  | .fault f => .refused (.template r.template f)
  | .negativeWidth w => .negativeWidth w

end Issuing

end DocNumber
