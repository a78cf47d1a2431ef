import DocNumber.Text.Digits

/-!
The pieces of a template: literal text and labelled places. `Canonical` says which lists of
pieces a template can stand for, `Spells` which texts stand for a list of pieces, and
`spelling` writes one such text.
-/

namespace DocNumber.Template

inductive Label
  | department
  | documentType
  | year2
  | year4
  | month2
  | sequence
deriving DecidableEq, Repr

def Label.all : List Label :=
  [.department, .documentType, .year2, .year4, .month2, .sequence]

def Label.name : Label → List Char
  | .department => ['d', 'e', 'p', 'a', 'r', 't', 'm', 'e', 'n', 't']
  | .documentType => ['d', 'o', 'c', 't', 'y', 'p', 'e']
  | .year2 => ['y', 'e', 'a', 'r', '2']
  | .year4 => ['y', 'e', 'a', 'r', '4']
  | .month2 => ['m', 'o', 'n', 't', 'h', '2']
  | .sequence => ['s', 'e', 'q']

def Label.ofName? (cs : List Char) : Option Label :=
  Label.all.find? fun l => l.name == cs

/-- The widest sequence place: eighteen nines still fit a signed 64-bit counter. -/
def maxWidth : Nat := 18

inductive Token
  | literal (text : List Char)
  | place (label : Label) (width : Option Nat)
deriving DecidableEq, Repr

/-- Opens and closes a place; neither can stand in literal text. -/
def isBrace (c : Char) : Bool :=
  c == '\x7b' || c == '\x7d'

def Token.Proper : Token → Prop
  | .literal text => text ≠ [] ∧ ∀ c ∈ text, isBrace c = false
  | .place _ none => True
  | .place label (some w) => label = .sequence ∧ 1 ≤ w ∧ w ≤ maxWidth

def Token.isLiteral : Token → Bool
  | .literal _ => true
  | .place _ _ => false

/-- Proper pieces, and no literal directly after another. -/
def Canonical : List Token → Prop
  | [] => True
  | [t] => t.Proper
  | t :: u :: rest => t.Proper ∧ ¬(t.isLiteral = true ∧ u.isLiteral = true) ∧ Canonical (u :: rest)

/-- A width is written with one or two digits; a leading zero is allowed. -/
def WidthText (w : Nat) (cs : List Char) : Prop :=
  (∀ c ∈ cs, Text.isDigit c = true) ∧ (cs.length = 1 ∨ cs.length = 2) ∧ Text.value cs = w

inductive Token.Spells : Token → List Char → Prop
  | literal (text : List Char) : Spells (.literal text) text
  | bare (label : Label) : Spells (.place label none) ('\x7b' :: label.name ++ ['\x7d'])
  | wide (label : Label) (w : Nat) (cs : List Char) (h : WidthText w cs) :
      Spells (.place label (some w)) ('\x7b' :: label.name ++ ':' :: cs ++ ['\x7d'])

/-- A text spells a list of pieces when it is their spellings in a row. -/
inductive Spells : List Token → List Char → Prop
  | nil : Spells [] []
  | cons {t : Token} {ts : List Token} {a b : List Char} :
      t.Spells a → Spells ts b → Spells (t :: ts) (a ++ b)

def Token.spelling : Token → List Char
  | .literal text => text
  | .place label none => '\x7b' :: label.name ++ ['\x7d']
  | .place label (some w) => '\x7b' :: label.name ++ ':' :: Text.digits w ++ ['\x7d']

/-- The plain spelling of a list of pieces: widths without a leading zero. -/
def spelling (ts : List Token) : List Char :=
  ts.flatMap Token.spelling

/-- The width of a sequence place; `default` where none is declared. -/
def widthOr (default : Int) : Option Nat → Int
  | none => default
  | some w => w

def sequenceWidths (default : Int) (ts : List Token) : List Int :=
  ts.filterMap fun
    | .place .sequence w => some (widthOr default w)
    | _ => none

end DocNumber.Template
