import DocNumber.Decimal.Binary64

/-!
JSON values. Whole numbers and numbers with a fraction or an exponent are kept apart, and the
members of an object keep their order.
-/

namespace DocNumber

inductive Json
  | null
  | bool (b : Bool)
  | int (n : Int)
  | real (x : Decimal.Binary64)
  | text (s : String)
  | list (items : List Json)
  | object (members : List (String × Json))
deriving Repr, Inhabited

namespace Json

abbrev Members := List (String × Json)

def Members.find? (ms : Members) (key : String) : Option Json :=
  ms.lookup key

/-- A repeated key keeps its first place and takes the last value. -/
def Members.put (key : String) (v : Json) : Members → Members
  | [] => [(key, v)]
  | (k, old) :: rest => if k == key then (k, v) :: rest else (k, old) :: Members.put key v rest

def get? : Json → String → Option Json
  | .object ms, key => Members.find? ms key
  | _, _ => none

mutual

/-- No number in it is infinite or not a number. -/
def isFinite : Json → Bool
  | .real (.infinite _) => false
  | .real .nan => false
  | .list items => finiteItems items
  | .object ms => finiteMembers ms
  | _ => true

def finiteItems : List Json → Bool
  | [] => true
  | v :: vs => isFinite v && finiteItems vs

def finiteMembers : List (String × Json) → Bool
  | [] => true
  | (_, v) :: ms => isFinite v && finiteMembers ms

end

end Json

end DocNumber
