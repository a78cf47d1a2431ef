import DocNumber.Calendar.Day
import DocNumber.Fault.Kind
import DocNumber.Store.Scope
import DocNumber.Template.Fault
import DocNumber.Text.Quoted

/-!
Why a rule or a request is refused, each cause with what its message needs; and the other ways in
which a call can fail: a width that nothing can be printed in, storage, and a deadline that passed.
-/

namespace DocNumber

/-- The parts of a request that are checked. -/
inductive RequestField
  | documentType
  | department
  | issuedBy
deriving DecidableEq, Repr

def RequestField.name : RequestField → String
  | .documentType => "document_type_code"
  | .department => "department_code"
  | .issuedBy => "created_by"

def RequestField.message : RequestField → String
  | .documentType => "Document type code must not be empty"
  | .department => "Department code must not be empty"
  | .issuedBy => "created_by must be a positive id"

inductive Refusal
  | emptyName
  | emptyTemplate
  | digitsOutOfRange
  | noDocumentTypes
  | periodReversed
  | template (text : String) (fault : Template.Fault)
  | request (field : RequestField)
  | noRule (documentType department : String) (day : Calendar.Day)
  | exhausted (scope : Store.Scope) (limit : Int)
  | noneFits (scope : Store.Scope) (width : Int)
  | duplicate (attempts : Nat) (rule : Int)
deriving DecidableEq

namespace Refusal

def kind : Refusal → Kind
  | .emptyName => .emptyRuleName
  | .emptyTemplate => .emptyTemplate
  | .digitsOutOfRange => .invalidSequenceDigits
  | .noDocumentTypes => .emptyDocumentTypeCodes
  | .periodReversed => .invalidEffectivePeriod
  | .template _ _ => .templateError
  | .request _ => .requestValidation
  | .noRule _ _ _ => .noApplicableRule
  | .exhausted _ _ | .noneFits _ _ => .sequenceExhausted
  | .duplicate _ _ => .duplicateNumber

/-- The scope and its greatest value. -/
def exhaustion (scope : Store.Scope) (greatest : List Char) : String :=
  "Sequence exhausted for " ++ scope.label ++ " (max " ++ String.ofList greatest ++ ")"

/-- The greatest value of a width below zero, one less than a tenth, a hundredth and so on. From
seventeen nines on it is rounded. -/
def belowZero (width : Int) : List Char :=
  if -16 ≤ width then '-' :: '0' :: '.' :: List.replicate (-width).toNat '9'
  else ['-', '1', '.', '0']

def message : Refusal → String
  | .template text fault => fault.message text
  | .request field => field.message
  | .noRule documentType department day =>
    "No applicable rule for document type " ++ Text.quoted documentType ++ ", department " ++
      Text.quoted department ++ " on " ++ day.text
  | .exhausted scope limit => exhaustion scope (Text.integer limit)
  | .noneFits scope width => exhaustion scope (belowZero width)
  | .duplicate attempts rule =>
    "Every generated number already existed after " ++ toString attempts ++ " attempts (rule " ++
      String.ofList (Text.integer rule) ++ ")"
  | r => r.kind.usualMessage

def field? : Refusal → Option String
  | .request field => some field.name
  | _ => none

end Refusal

/-- What storage can answer instead of a result. `overflow` is a number too large to be stored. -/
inductive StorageFault
  | overflow
  | integrity
  | unavailable
deriving DecidableEq, Repr

inductive Failure
  | refused (r : Refusal)
  | negativeWidth (w : Int)
  | storage (f : StorageFault)
  | timedOut
deriving DecidableEq

end DocNumber
