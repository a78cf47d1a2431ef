import DocNumber.Fault.Refusal
import DocNumber.Json.Value

/-!
How a failure is reported over HTTP: a status and a detail.
-/

namespace DocNumber

structure Reply where
  status : Nat
  detail : Json

namespace Reply

/-- A refused request names its field, every other refusal its kind. -/
def refused (k : Kind) (message : String) (field : Option String) : Reply :=
  let subject : String × Json :=
    match field with
    | some name => ("field", .text name)
    | none => ("error", .text k.name)
  ⟨k.status, .object [subject, ("message", .text message)]⟩

def ofRefusal (r : Refusal) : Reply :=
  refused r.kind r.message r.field?

def storage : Reply :=
  ⟨503, .text "Storage unavailable"⟩

def timedOut : Reply :=
  ⟨504, .text "Number generation timed out"⟩

/-- A number too large for storage and a width below zero have no reply; they escape. -/
def ofFailure? : Failure → Option Reply
  | .refused r => some (ofRefusal r)
  | .negativeWidth _ => none
  | .storage .overflow => none
  | .storage _ => some storage
  | .timedOut => some timedOut

end Reply

end DocNumber
