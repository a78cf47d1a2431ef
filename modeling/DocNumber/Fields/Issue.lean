import DocNumber.Json.Value

/-!
What is wrong with a field, and where it stands. Issues are collected, not cut off at the first.
-/

namespace DocNumber.Fields

inductive Problem
  | missing
  | notObject
  | notFields
  | notText
  | notList
  | notInt
  | unreadableInt
  | oversizeInt
  | fractionalInt
  | notFinite
  | notDay
  | noSuchDay
  | unreadableDay
  | notMidnight
  | unreadableBool
  | unreadableReal
  | belowLeast
  | aboveGreatest
  | notAbove
  | malformedText
deriving DecidableEq, Repr

def Problem.name : Problem → String
  | .missing => "missing"
  | .notObject => "model_type"
  | .notFields => "model_attributes_type"
  | .notText => "string_type"
  | .notList => "list_type"
  | .notInt => "int_type"
  | .unreadableInt => "int_parsing"
  | .oversizeInt => "int_parsing_size"
  | .fractionalInt => "int_from_float"
  | .notFinite => "finite_number"
  | .notDay => "date_type"
  | .noSuchDay => "date_parsing"
  | .unreadableDay => "date_from_datetime_parsing"
  | .notMidnight => "date_from_datetime_inexact"
  | .unreadableBool => "bool_parsing"
  | .unreadableReal => "float_parsing"
  | .belowLeast => "greater_than_equal"
  | .aboveGreatest => "less_than_equal"
  | .notAbove => "greater_than"
  | .malformedText => "json_invalid"

/-- A step on the way to a field: a name, or a place in a list. -/
inductive Step
  | name (s : String)
  | index (n : Nat)
deriving DecidableEq, Repr

structure Issue where
  problem : Problem
  path : List Step
deriving DecidableEq, Repr

/-- The same issue seen from one level further out. -/
def Issue.under (step : Step) (i : Issue) : Issue :=
  { i with path := step :: i.path }

abbrev Checked (α : Type) := Except (List Issue) α

/-- Applies a checked function; the issues of both sides are kept. -/
def Checked.ap {α β : Type} (f : Checked (α → β)) (x : Checked α) : Checked β :=
  match f, x with
  | .ok f, .ok x => .ok (f x)
  | .ok _, .error issues => .error issues
  | .error issues, .ok _ => .error issues
  | .error issues, .error more => .error (issues ++ more)

def Checked.under {α : Type} (step : Step) (x : Checked α) : Checked α :=
  x.mapError fun issues => issues.map (Issue.under step)

def Checked.fault {α : Type} (p : Problem) : Checked α :=
  .error [⟨p, []⟩]

theorem Checked.ap_eq_ok_iff {α β : Type} (f : Checked (α → β)) (x : Checked α) (b : β) :
    Checked.ap f x = .ok b ↔ ∃ g a, f = .ok g ∧ x = .ok a ∧ g a = b := by
  cases f <;> cases x <;> simp [Checked.ap]

def Step.toJson : Step → Json
  | .name s => .text s
  | .index n => .int n

def Issue.toJson (i : Issue) : Json :=
  .list [.text i.problem.name, .list (i.path.map Step.toJson)]

end DocNumber.Fields
