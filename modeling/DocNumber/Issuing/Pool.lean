import DocNumber.Issuing.Call

/-!
Calls that run side by side over one store. What happens to them is a list of events: a turn of
one call, or a call cut off. Any list is a possible course of events.
-/

namespace DocNumber.Issuing

open Store

structure Pool where
  calls : List Call
  state : State
  notes : List Note

inductive Event
  | turn (i : Nat)
  | cut (i : Nat)
deriving DecidableEq, Repr

namespace Pool

def start (requests : List Request) (s : State) : Pool :=
  ⟨requests.map Call.start, s, []⟩

def step (v : Service) (p : Pool) : Event → Pool
  | .turn i =>
    match p.calls[i]? with
    | none => p
    | some c =>
      let t := v.turn c p.state
      ⟨p.calls.set i t.call, t.state, p.notes ++ t.notes⟩
  | .cut i =>
    match p.calls[i]? with
    | none => p
    | some c => { p with calls := p.calls.set i c.cut }

def run (v : Service) (p : Pool) (events : List Event) : Pool :=
  events.foldl (step v) p

/-- One event for each call, in order: it is cut off where `cut` says so, or gets a turn. -/
def round (v : Service) (cut : Call → Bool) (p : Pool) : Pool :=
  (List.range p.calls.length).foldl
    (fun p i =>
      match p.calls[i]? with
      | none => p
      | some c => p.step v (if cut c then .cut i else .turn i))
    p

/-- Rounds until all calls have finished, at most `n`. -/
def rounds (v : Service) (cut : Call → Bool) : Nat → Pool → Pool
  | 0, p => p
  | n + 1, p => if p.calls.all Call.isFinished then p else rounds v cut n (p.round v cut)

/-- All calls take turns in order until each has finished. -/
def finish (v : Service) (cut : Call → Bool) (requests : List Request) (s : State) : Pool :=
  rounds v cut v.bound (start requests s)

end Pool

end DocNumber.Issuing
