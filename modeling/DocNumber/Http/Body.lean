import DocNumber.Http.Message
import DocNumber.Json.Reader
import DocNumber.Text.Blank
import DocNumber.Text.Utf8

/-!
Reading the body of a request: JSON where the content type says so, and an object. What is wrong
with a body is answered together with the values that it is about, so it also counts whether these
can be written.
-/

namespace DocNumber.Http

/-- The type before any parameters, as its two parts; none unless it has exactly two. -/
def mediaType? (contentType : String) : Option (List Char × List Char) :=
  let whole := contentType.toList.takeWhile (· != ';')
  match (Decimal.lowerAscii (Text.stripBy Text.isBlank whole)).splitOn '/' with
  | [main, sub] => some (main, sub)
  | _ => none

def isJson (contentType : String) : Bool :=
  match mediaType? contentType with
  | none => false
  | some (main, sub) =>
    main == "application".toList &&
      (sub == "json".toList || "+json".toList.isSuffixOf sub)

/-- Bytes read as text. Half of a surrogate pair is no character: the text then has a replacement
character in its place, and counts as torn. -/
structure Decoded where
  text : String
  torn : Bool

/-- What the endpoints stand on: how bytes are read as text, if they can be; how many lists and
objects may stand in each other below the first; and whether an answer can repeat a value, for which
it must not nest too deep either. -/
structure Platform where
  decode : List Nat → Option Decoded
  room : Nat
  repeats : Json → Bool

/-- Why a body gives no fields: something is wrong with it that the answer can tell; it cannot be
decoded at all; the answer would repeat a value that it cannot write; or it is torn. -/
inductive Unread
  | issues (found : List Fields.Issue)
  | undecodable
  | unwritten
  | torn
deriving DecidableEq

def atBody (p : Fields.Problem) : List Fields.Issue :=
  [⟨p, [.name "body"]⟩]

def valueAt? (v : Json) : List Fields.Step → Option Json
  | [] => some v
  | .name key :: steps => (v.get? key).bind fun inner => valueAt? inner steps
  | .index n :: steps =>
    match v with
    | .list items => items[n]?.bind fun inner => valueAt? inner steps
    | _ => none

/-- The value that an issue repeats: the one it is about, or the whole object where a field is
missing. -/
def repeated (ms : Json.Members) (i : Fields.Issue) : Json :=
  match i.problem with
  | .missing => .object ms
  | _ => (valueAt? (.object ms) i.path).getD .null

namespace Platform

def usual : Platform where
  decode bytes :=
    match Text.Utf8.decode bytes with
    | .error _ => none
    | .ok ('\uFEFF' :: cs) => some ⟨String.ofList cs, false⟩
    | .ok cs => some ⟨String.ofList cs, false⟩
  room := 900
  repeats _ := true

/-- Issues whose answer repeats `values`. -/
def unread (m : Platform) (found : List Fields.Issue) (values : List Json) : Unread :=
  if values.all fun v => v.isFinite && m.repeats v then .issues found else .unwritten

/-- The members of the body. A body that is empty or null counts as missing. One that is not JSON is
repeated as it came, and so must be UTF-8. -/
def readBody (m : Platform) (q : Incoming) : Except Unread Json.Members :=
  if q.body.isEmpty then .error (.issues (atBody .missing))
  else if !isJson ((Headers.find? q.headers "content-type").getD "") then
    .error (if (Text.Utf8.decode q.body).isOk then .issues (atBody .notFields) else .unwritten)
  else
    match m.decode q.body with
    | none => .error .undecodable
    | some d =>
      match Json.read m.room d.text with
      | .error (.malformed e) =>
        .error (.issues [⟨.malformedText, [.name "body", .index e.position]⟩])
      | .error _ => .error .undecodable
      | .ok .null => .error (.issues (atBody .missing))
      | .ok v =>
        if d.torn || Json.torn d.text then .error .torn
        else
          match v with
          | .object ms => .ok ms
          | v => .error (m.unread (atBody .notFields) [v])

/-- Reads the body with `read`, whose issues are then found in the body. -/
def readBodyAs {α : Type} (m : Platform) (q : Incoming)
    (read : Json.Members → Fields.Checked α) : Except Unread α :=
  match m.readBody q with
  | .error u => .error u
  | .ok ms =>
    match read ms with
    | .ok a => .ok a
    | .error found =>
      .error (m.unread (found.map (Fields.Issue.under (.name "body"))) (found.map (repeated ms)))

end Platform

end DocNumber.Http
