import DocNumber.Calendar.Written
import DocNumber.Rule.Fields
import DocNumber.Seed.Fault

/-!
Reading seed files: an object whose `data` lists one row per rule. A row is looked at field by
field in a fixed order, and the first fault ends the reading. How deep values may nest in the text
of codes is given with `room`.
-/

namespace DocNumber.Seed

/-- A day; none for null and for the empty text. -/
def readDay (field rule : String) (value : Json) : Except Fault (Option Calendar.Day) :=
  match value with
  | .null => .ok none
  | .text "" => .ok none
  | v =>
    match Calendar.readWritten? v.plain with
    | some day => .ok (some day)
    | none => .error (.unreadableDay field v rule)

/-- The codes as a list, or as the JSON text of one. Of such a text only that it is malformed is put
in words of its own. -/
def readTypes (room : Nat) (rule : String) (value : Json) : Except Fault (List String) :=
  let list (v : Json) : Except Fault (List String) :=
    match v with
    | .list items => .ok (items.map Json.plain)
    | _ => .error (.typesNotList rule)
  match value with
  | .text s =>
    match Json.read room s with
    | .error (.malformed _) => .error (.unreadableTypes rule)
    | .error h => .error (.unread h)
    | .ok v => list v
  | v => list v

def get (row : Json.Members) (field : String) (default : Json) : Json :=
  (Json.Members.find? row field).getD default

/-- The fields that are taken over as they stand. -/
def draft (rule : String) (row : Json.Members) (types : List String) (first : Calendar.Day)
    (last : Option Calendar.Day) : Fields.Checked Draft :=
  let field {α : Type} (name : String) (default : Json) (read : Json → Fields.Checked α) :
      Fields.Checked α :=
    Fields.Checked.under (.name name) (read (get row name default))
  let draft : Fields.Checked (String → Int → Option String → Int → Draft) :=
    .ok fun template digits department priority =>
      Draft.ofFields rule template digits department types first last priority
  let draft := Fields.Checked.ap draft (field "template" (.text "") Fields.readText)
  let draft := Fields.Checked.ap draft (field "sequence_digits" (.int 0) Fields.readInt)
  let draft := Fields.Checked.ap draft
    (field "department_code" .null (Fields.nullable Fields.readText))
  Fields.Checked.ap draft (field "priority" (.int 0) Fields.readInt)

def readMembers (room : Nat) (row : Json.Members) : Except Fault Draft := do
  let rule := (get row "rule_name" (.text "")).plain
  match ← readDay "effective_from" rule (get row "effective_from" .null) with
  | none => .error (.noStart rule)
  | some first =>
    let types ← readTypes room rule (get row "document_type_codes" (.list []))
    let last ← readDay "effective_until" rule (get row "effective_until" .null)
    (draft rule row types first last).mapError (Fault.invalidRow rule)

def readRow (room : Nat) (row : Json) : Except Fault Draft :=
  match row with
  | .object ms => readMembers room ms
  | v => .error (.notObject (.ofJson v))

def readRows (room : Nat) : List Json → Except Fault (List Draft)
  | [] => .ok []
  | row :: rows =>
    match readRow room row with
    | .error e => .error e
    | .ok d => (readRows room rows).map (d :: ·)

def readPayload (room : Nat) (payload : Json) : Except Fault (List Draft) :=
  match payload with
  | .object ms =>
    match Json.Members.find? ms "data" with
    | some (.list rows) => readRows room rows
    | _ => .error .noRows
  | v => .error (.notObject (.ofJson v))

/-- Every line end becomes a line feed. -/
def plainLines : List Char → List Char
  | [] => []
  | '\r' :: '\n' :: cs => '\n' :: plainLines cs
  | '\r' :: cs => '\n' :: plainLines cs
  | c :: cs => c :: plainLines cs

def plainText (text : String) : String :=
  String.ofList (plainLines text.toList)

/-- How many levels of lists and objects there may be below the first: in a file, and in the text of
codes. -/
structure Depths where
  file : Nat
  codes : Nat

/-- What calls nested a thousand deep leave for it. -/
def Depths.usual : Depths :=
  ⟨984, 982⟩

def readContent (depths : Depths) (content : String) : Except Fault (List Draft) :=
  match Json.read depths.file (plainText content) with
  | .error h => .error (.unread h)
  | .ok payload => readPayload depths.codes payload

end DocNumber.Seed
