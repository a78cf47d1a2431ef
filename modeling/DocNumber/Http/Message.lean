import DocNumber.Decimal.Numeral
import DocNumber.Fault.Reply
import DocNumber.Fields.Issue

/-!
Requests and responses of the service. A body is bytes until it is read.
-/

namespace DocNumber.Http

/-- Header names are compared in any case of letters. -/
abbrev Headers := List (String × String)

def lowerName (s : String) : String :=
  String.ofList (Decimal.lowerAscii s.toList)

def Headers.find? (hs : Headers) (name : String) : Option String :=
  (List.find? (fun h => lowerName h.1 == name) hs).map fun h => h.2

structure Incoming where
  method : String
  host : String
  path : String
  query : String
  headers : Headers
  body : List Nat

inductive Content
  | json (v : Json)
  | issues (found : List Fields.Issue)
  | text (s : String)

structure Response where
  status : Nat
  headers : Headers
  content : Content

namespace Response

def json (status : Nat) (v : Json) : Response :=
  ⟨status, [], .json v⟩

def detail (status : Nat) (v : Json) : Response :=
  json status (.object [("detail", v)])

def ofReply (r : Reply) : Response :=
  detail r.status r.detail

/-- Fields that could not be read. -/
def unprocessable (found : List Fields.Issue) : Response :=
  ⟨422, [], .issues found⟩

def notFound : Response :=
  detail 404 (.text "Not Found")

def otherMethod (allowed : String) : Response :=
  { detail 405 (.text "Method Not Allowed") with headers := [("allow", allowed)] }

end Response

/-- Why a request goes without an answer: it ends in a failure that none is foreseen for, or the
answer cannot be written. -/
inductive Escape
  | failure (f : Failure)
  | unwritten
deriving DecidableEq

inductive Answer
  | response (r : Response)
  | escaped (e : Escape)

def Answer.ofFailure (f : Failure) : Answer :=
  match Reply.ofFailure? f with
  | some reply => .response (.ofReply reply)
  | none => .escaped (.failure f)

end DocNumber.Http
