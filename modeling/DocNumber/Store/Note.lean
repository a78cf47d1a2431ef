import DocNumber.Fault.Refusal
import DocNumber.Rule.Basic

/-!
Notes that operations leave for whoever runs the service.
-/

namespace DocNumber

inductive Note
  | created (r : Rule)
  | exhausted (scope : Store.Scope) (greatest : Int)
  | issued (number : String) (rule sequence : Int) (department : String) (issuedBy : Int)
  | known (number : String) (rule : Int) (attempt attempts : Nat)
  | wouldInsert (n : Nat)
  | seeded (n : Nat)
  | noLookup

namespace Note

def isWarning : Note → Bool
  | .exhausted _ _ | .known _ _ _ _ | .noLookup => true
  | _ => false

def level (n : Note) : String :=
  if n.isWarning then "WARNING" else "INFO"

def int (n : Int) : String :=
  String.ofList (Text.integer n)

def message : Note → String
  | .created r =>
    "Created numbering rule " ++ int r.id ++ " (" ++ r.name ++ ") for types " ++
      Text.quotedList r.types
  | .exhausted scope greatest => Refusal.exhaustion scope (Text.integer greatest)
  | .issued number rule sequence department issuedBy =>
    "Issued " ++ number ++ " (rule " ++ int rule ++ ", seq " ++ int sequence ++ ", dept " ++
      department ++ ", by " ++ int issuedBy ++ ")"
  | .known number rule attempt attempts =>
    "Generated number " ++ number ++ " already exists (rule " ++ int rule ++ ", attempt " ++
      toString attempt ++ "/" ++ toString attempts ++ ")"
  | .wouldInsert n => "Would insert " ++ toString n ++ " numbering rules"
  | .seeded n => "Seeded " ++ toString n ++ " numbering rules"
  | .noLookup =>
    "NUMBERING_DUPLICATE_CHECK is on but no number lookup was given; " ++
      "every number counts as new"

end Note

end DocNumber
