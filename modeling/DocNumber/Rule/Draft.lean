import DocNumber.Fault.Refusal
import DocNumber.Rule.Basic
import DocNumber.Template.Parse
import DocNumber.Text.Blank

/-!
Checking a draft and bringing it into normal form. The conditions are tried in a fixed order, and
the first that fails is reported.
-/

namespace DocNumber.Draft

/-- Appends a code that is not blank and not there yet, without the blanks around it. -/
def addCode (codes : List String) (code : String) : List String :=
  let code := Text.strip code
  if code.isEmpty || codes.contains code then codes else codes ++ [code]

/-- The codes without blanks around them, each once, in order of first occurrence. -/
def normalCodes (codes : List String) : List String :=
  codes.foldl addCode []

/-- A blank department stands for none. -/
def normalDepartment (department : Option String) : Option String :=
  match department with
  | none => none
  | some code =>
    let code := Text.strip code
    if code.isEmpty then none else some code

def normalize (d : Draft) : Draft :=
  { d with
    name := Text.strip d.name
    department := normalDepartment d.department
    types := normalCodes d.types }

def digitsInRange (d : Draft) : Bool :=
  decide (1 ≤ d.digits) && decide (d.digits ≤ Template.maxWidth)

/-- What is wrong with a draft, if anything. -/
def refusal? (d : Draft) : Option Refusal :=
  if Text.allBlank d.name then some .emptyName
  else if Text.allBlank d.template then some .emptyTemplate
  else if !d.digitsInRange then some .digitsOutOfRange
  else if (normalCodes d.types).isEmpty then some .noDocumentTypes
  else if d.window.reversed then some .periodReversed
  else
    match Template.parse d.template.toList with
    | .error fault => some (.template d.template fault)
    | .ok _ => none

/-- The normal form of a draft that is sound, or the first thing wrong with it. -/
def accept (d : Draft) : Except Refusal Draft :=
  match d.refusal? with
  | some r => .error r
  | none => .ok d.normalize

end DocNumber.Draft
