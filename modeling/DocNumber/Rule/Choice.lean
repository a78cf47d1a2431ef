import DocNumber.Rule.Basic

/-!
Which rule governs a document type, a department and a day: of the rules that apply, those of the
department go before the generic ones, and in the better class the first in precedence is taken.
-/

namespace DocNumber.Rule

/-- The first rule in precedence; of two that precede each other, the earlier in the list. -/
def first? : List Rule → Option Rule
  | [] => none
  | r :: rs =>
    match first? rs with
    | none => some r
    | some best => if r.precedes best then some r else some best

/-- The rules of the department, or else the generic ones. -/
def candidates (rules : List Rule) (department : String) : List Rule :=
  let own := rules.filter fun r => r.department == some department
  if own.isEmpty then rules.filter fun r => r.department == none else own

def pick (rules : List Rule) (documentType department : String) (day : Calendar.Day) :
    Option Rule :=
  first? (candidates (rules.filter fun r => r.appliesTo documentType day) department)

end DocNumber.Rule
