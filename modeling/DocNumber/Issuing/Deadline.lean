import DocNumber.Decimal.Binary64
import DocNumber.Issuing.Call

/-!
When a deadline cuts a call off. A deadline that is over from the start does so at the first wait;
a slow store makes every allocation wait thirty seconds after the value is taken.
-/

namespace DocNumber.Issuing

open Decimal

/-- Not later than the start, as far as the clock can tell. -/
def overAtOnce (seconds : Binary64) : Bool :=
  seconds.lessThanRatio 1 1000000

/-- The wait of one slow allocation, in seconds. -/
def slowWait : Nat := 30

def Service.cuts (v : Service) (deadline : Option Binary64) (c : Call) : Bool :=
  match deadline with
  | none => false
  | some seconds =>
    match c with
    | .resolving _ => overAtOnce seconds
    | .allocated _ _ _ k => v.allocation == .slow && seconds.lessThanRatio (slowWait * k) 1
    | _ => false

end DocNumber.Issuing
