import DocNumber.Fields.Issue
import DocNumber.Json.Plain
import DocNumber.Json.Reader

/-!
What can be wrong with a seed file. All causes but two are reported to whoever wrote the file: a
value that is not an object where one is needed, and values that nest too deep, are not foreseen.
-/

namespace DocNumber.Seed

/-- The shape of value that stands where an object is needed. -/
inductive Shape
  | list
  | text
  | null
  | int
  | real
  | bool
  | object
deriving DecidableEq, Repr

def Shape.ofJson : Json → Shape
  | .list _ => .list
  | .text _ => .text
  | .null => .null
  | .int _ => .int
  | .real _ => .real
  | .bool _ => .bool
  | .object _ => .object

def Shape.name : Shape → String
  | .list => "list"
  | .text => "str"
  | .null => "NoneType"
  | .int => "int"
  | .real => "float"
  | .bool => "bool"
  | .object => "dict"

inductive Fault
  | unread (h : Json.Halt Json.ReadError)
  | notObject (found : Shape)
  | noRows
  | noStart (rule : String)
  | unreadableDay (field : String) (value : Json) (rule : String)
  | unreadableTypes (rule : String)
  | typesNotList (rule : String)
  | invalidRow (rule : String) (issues : List Fields.Issue)

namespace Fault

/-- The cause is not one that reading foresees. -/
def isCrash : Fault → Bool
  | .notObject _ | .unread (.tooDeep _) => true
  | _ => false

def issues : Fault → List Fields.Issue
  | .invalidRow _ found => found
  | _ => []

/-- How many issues there are. -/
def count (issues : List Fields.Issue) : String :=
  toString issues.length ++ (if issues.length == 1 then " validation error" else " validation errors")

def message : Fault → String
  | .unread h => h.message
  | .notObject found => "'" ++ found.name ++ "' object has no attribute 'get'"
  | .noRows => "Seed file must contain a 'data' list"
  | .noStart rule => "Missing effective_from for rule " ++ Text.quoted rule
  | .unreadableDay field value rule =>
    "Invalid " ++ field ++ " " ++ value.inner ++ " for rule " ++ Text.quoted rule
  | .unreadableTypes rule => "Invalid document_type_codes for rule " ++ Text.quoted rule
  | .typesNotList rule => "document_type_codes must be a list for rule " ++ Text.quoted rule
  | .invalidRow rule found =>
    "Invalid seed row for rule " ++ Text.quoted rule ++ ": " ++ count found ++
      " for NumberingRuleCreate"

end Fault

end DocNumber.Seed
