import DocNumber.Fault.Refusal
import DocNumber.Fields.Read
import DocNumber.Text.Blank

/-!
Requests for a document number. Codes are compared and printed without the blanks around them.
-/

namespace DocNumber

structure Request where
  documentType : String
  department : String
  day : Calendar.Day
  issuedBy : Int
deriving DecidableEq

namespace Request

/-- What is wrong with a request, if anything; the fields are looked at in order. -/
def refusal? (r : Request) : Option Refusal :=
  if Text.allBlank r.documentType then some (.request .documentType)
  else if Text.allBlank r.department then some (.request .department)
  else if r.issuedBy < 1 then some (.request .issuedBy)
  else none

def normalize (r : Request) : Request :=
  { r with
    documentType := Text.strip r.documentType
    department := Text.strip r.department }

def accept (r : Request) : Except Refusal Request :=
  match r.refusal? with
  | some f => .error f
  | none => .ok r.normalize

def ofFields (documentType department : String) (day : Calendar.Day) (issuedBy : Int) : Request :=
  { documentType, department, day, issuedBy }

open Fields

def ofMembers (ms : Json.Members) : Checked Request :=
  let request := (required ms "document_type_code" readText).map ofFields
  let request := Checked.ap request (required ms "department_code" readText)
  let request := Checked.ap request (required ms "created_date" readDay)
  Checked.ap request (required ms "created_by" readInt)

def ofJson : Json → Checked Request
  | .object ms => ofMembers ms
  | _ => .fault .notObject

def toJson (r : Request) : Json :=
  .object
    [("document_type_code", .text r.documentType), ("department_code", .text r.department),
      ("created_date", .text r.day.text), ("created_by", .int r.issuedBy)]

end Request

end DocNumber
