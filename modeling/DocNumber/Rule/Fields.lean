import DocNumber.Fields.Read
import DocNumber.Rule.Basic

/-!
Drafts and rules as objects with named fields. All issues of a draft are reported together.
-/

namespace DocNumber

def dayJson (d : Option Calendar.Day) : Json :=
  match d with
  | none => .null
  | some d => .text d.text

def textJson (s : Option String) : Json :=
  match s with
  | none => .null
  | some s => .text s

def textsJson (xs : List String) : Json :=
  .list (xs.map Json.text)

namespace Draft

open Fields

def ofFields (name template : String) (digits : Int) (department : Option String)
    (types : List String) (first : Calendar.Day) (last : Option Calendar.Day) (priority : Int) :
    Draft :=
  { name, template, digits, department, types, window := ⟨first, last⟩, priority }

def ofMembers (ms : Json.Members) : Checked Draft :=
  let draft := (required ms "rule_name" readText).map ofFields
  let draft := Checked.ap draft (required ms "template" readText)
  let draft := Checked.ap draft (required ms "sequence_digits" readInt)
  let draft := Checked.ap draft (optional ms "department_code" none (nullable readText))
  let draft := Checked.ap draft (optional ms "document_type_codes" [] (readList readText))
  let draft := Checked.ap draft (required ms "effective_from" readDay)
  let draft := Checked.ap draft (optional ms "effective_until" none (nullable readDay))
  Checked.ap draft (optional ms "priority" 0 readInt)

/-- Other members are ignored. -/
def ofJson : Json → Checked Draft
  | .object ms => ofMembers ms
  | _ => .fault .notObject

def toJson (d : Draft) : Json :=
  .object
    [("rule_name", .text d.name), ("template", .text d.template),
      ("sequence_digits", .int d.digits), ("department_code", textJson d.department),
      ("document_type_codes", textsJson d.types),
      ("effective_from", .text d.window.first.text), ("effective_until", dayJson d.window.last),
      ("priority", .int d.priority)]

end Draft

def Rule.members (r : Rule) : Json.Members :=
  [("id", .int r.id), ("name", .text r.name), ("template", .text r.template),
    ("sequence_width", .int r.width), ("department_code", textJson r.department),
    ("document_type_codes", textsJson r.types),
    ("effective_from", .text r.window.first.text), ("effective_until", dayJson r.window.last),
    ("priority", .int r.priority)]

def Rule.toJson (r : Rule) : Json :=
  .object r.members

end DocNumber
