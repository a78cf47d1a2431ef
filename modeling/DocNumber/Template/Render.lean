import DocNumber.Decimal.Power
import DocNumber.Template.Parse

/-!
Filling in a template, and the largest sequence value that fits all its sequence places.
-/

namespace DocNumber.Template

structure Context where
  year : Int
  month : Int
  sequence : Int
  defaultWidth : Int
  department : Option String
  documentType : Option String
deriving DecidableEq, Repr

def Context.fill (ctx : Context) : Label → Option Nat → Except Obstacle (List Char)
  | .department, _ =>
    match ctx.department with
    | some code => .ok code.toList
    | none => .error (.fault (.noValue .department))
  | .documentType, _ =>
    match ctx.documentType with
    | some code => .ok code.toList
    | none => .error (.fault (.noValue .documentType))
  | .year2, _ => .ok (Text.padded 2 (ctx.year.fmod 100))
  | .year4, _ => .ok (Text.padded 4 ctx.year)
  | .month2, _ => .ok (Text.padded 2 ctx.month)
  | .sequence, width =>
    let w := widthOr ctx.defaultWidth width
    if w < 0 then .error (.negativeWidth w) else .ok (Text.padded w.toNat ctx.sequence)

def Token.render (ctx : Context) : Token → Except Obstacle (List Char)
  | .literal text => .ok text
  | .place label width => ctx.fill label width

def renderTokens (ctx : Context) : List Token → Except Obstacle (List Char)
  | [] => .ok []
  | t :: ts =>
    match t.render ctx with
    | .error o => .error o
    | .ok front => (renderTokens ctx ts).map (front ++ ·)

def render (template : List Char) (ctx : Context) : Except Obstacle (List Char) :=
  match parse template with
  | .error f => .error (.fault f)
  | .ok ts => renderTokens ctx ts

/-- The width of the narrowest sequence place, or the default where there is none. -/
def narrowest (default : Int) (ts : List Token) : Int :=
  (sequenceWidths default ts).min?.getD default

/-- As many nines as the narrowest place is wide. -/
def limitOf (default : Int) (ts : List Token) : Nat :=
  Decimal.tenPower (narrowest default ts).toNat - 1

/-- Places of less than no width set no limit. -/
def sequenceLimit (template : List Char) (default : Int) : Except Obstacle Nat :=
  match parse template with
  | .error f => .error (.fault f)
  | .ok ts =>
    if narrowest default ts < 0 then .error (.negativeWidth (narrowest default ts))
    else .ok (limitOf default ts)

end DocNumber.Template
