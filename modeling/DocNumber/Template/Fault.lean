import DocNumber.Template.Token

/-!
What can be wrong with a template, or with filling one in, and the message for each cause.
Positions count characters from the start of the template.
-/

namespace DocNumber.Template

inductive Fault
  | unbalanced (position : Nat)
  | unclosed (position : Nat)
  | nested (position : Nat)
  | unknownPlace (body : List Char)
  | widthNotAccepted (label : Label)
  | invalidWidth (body : List Char)
  | widthOutOfRange (body : List Char)
  | noValue (label : Label)
deriving DecidableEq, Repr

/-- The same fault `n` characters further on. -/
def Fault.shift (n : Nat) : Fault → Fault
  | .unbalanced p => .unbalanced (n + p)
  | .unclosed p => .unclosed (n + p)
  | .nested p => .nested (n + p)
  | f => f

def braced (cs : List Char) : String :=
  String.ofList ('\x7b' :: cs ++ ['\x7d'])

def Fault.message (template : String) (f : Fault) : String :=
  let cause := match f with
    | .unbalanced p => "Unbalanced '\x7d' at position " ++ toString p
    | .unclosed p => "Unclosed placeholder at position " ++ toString p
    | .nested p => "Nested '\x7b' at position " ++ toString p
    | .unknownPlace body => "Unknown placeholder " ++ braced body
    | .widthNotAccepted label => "Placeholder " ++ braced label.name ++ " does not accept a width"
    | .invalidWidth body => "Invalid width " ++ braced body
    | .widthOutOfRange body => "Width must be 1.." ++ toString maxWidth ++ " in " ++ braced body
    | .noValue label => "No value for placeholder " ++ braced label.name
  cause ++ " in template: " ++ template

/-- Why a template is not filled in, or sets no limit: it is at fault, or a place of the sequence
gets a width below zero. -/
inductive Obstacle
  | fault (f : Fault)
  | negativeWidth (w : Int)
deriving DecidableEq, Repr

def Obstacle.message (template : String) : Obstacle → String
  | .fault f => f.message template
  | .negativeWidth w =>
    "Invalid format specifier '0" ++ String.ofList (Text.integer w) ++ "d' for object of type 'int'"

end DocNumber.Template
