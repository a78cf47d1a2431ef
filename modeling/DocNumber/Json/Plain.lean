import DocNumber.Json.Value
import DocNumber.Decimal.Shortest
import DocNumber.Text.Quoted

/-!
The plain text of a value, for names, codes and messages: a text stands for itself, numbers are
written in full, and inside lists and objects texts are quoted.
-/

namespace DocNumber.Json

mutual

/-- The form a value takes inside a list or an object. -/
def inner : Json → String
  | .null => "None"
  | .bool true => "True"
  | .bool false => "False"
  | .int n => String.ofList (Text.integer n)
  | .real x => String.ofList x.text
  | .text s => Text.quoted s
  | .list items => "[" ++ ", ".intercalate (innerItems items) ++ "]"
  | .object ms => "\x7b" ++ ", ".intercalate (innerMembers ms) ++ "\x7d"

def innerItems : List Json → List String
  | [] => []
  | v :: vs => inner v :: innerItems vs

def innerMembers : List (String × Json) → List String
  | [] => []
  | (k, v) :: ms => (Text.quoted k ++ ": " ++ inner v) :: innerMembers ms

end

def plain : Json → String
  | .text s => s
  | v => inner v

end DocNumber.Json
