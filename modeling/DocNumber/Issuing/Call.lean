import DocNumber.Issuing.Service

/-!
A call for one number, seen from outside: between two of its turns it waits, and at each wait it
can be cut off. A turn makes one access to the store and runs up to the next wait.
-/

namespace DocNumber.Issuing

open Store

/-- Where a call waits, or how it ended. Attempts count from one. -/
inductive Call
  | resolving (q : Request)
  | allocating (q : Request) (r : Rule) (limit : Nat) (attempt : Nat)
  | allocated (q : Request) (r : Rule) (n : Int) (attempt : Nat)
  | checking (q : Request) (r : Rule) (issued : Issued) (attempt : Nat)
  | finished (result : Except Failure Issued)

namespace Call

def refused (r : Refusal) : Call :=
  .finished (.error (.refused r))

def isFinished : Call → Bool
  | .finished _ => true
  | _ => false

/-- The request is checked before the first wait. -/
def start (q : Request) : Call :=
  match q.accept with
  | .error f => refused f
  | .ok q => .resolving q

/-- The limit is worked out before the value is asked for. -/
def attempt (q : Request) (r : Rule) (k : Nat) : Call :=
  match r.limit with
  | .error o => refused (r.unlimited (scopeOf r q) o)
  | .ok limit => .allocating q r limit k

/-- Cut off while waiting; what is finished stays so. -/
def cut : Call → Call
  | .finished result => .finished result
  | _ => .finished (.error .timedOut)

end Call

/-- A call and the state after one turn, and the notes of the turn. -/
structure Turn where
  call : Call
  state : State
  notes : List Note

def Service.turn (v : Service) (c : Call) (s : State) : Turn :=
  match c with
  | .resolving q =>
    match v.resolve q.documentType q.department q.day s with
    | .error f => ⟨.finished (.error f), s, []⟩
    | .ok r => ⟨.attempt q r 1, s, []⟩
  | .allocating q r limit k =>
    let out := v.next (scopeOf r q) limit s
    match out.result with
    | .error f => ⟨.finished (.error f), out.state, out.notes⟩
    | .ok n => ⟨.allocated q r n k, out.state, out.notes⟩
  | .allocated q r n k =>
    match number r q n with
    | .error o => ⟨.finished (.error (unprinted r o)), s, []⟩
    | .ok issued =>
      let note := Note.issued issued.number r.id n q.department q.issuedBy
      if v.guarded then ⟨.checking q r issued k, s, [note]⟩
      else ⟨.finished (.ok issued), s, [note]⟩
  | .checking q r issued k =>
    if v.engine.hasNumber issued.number s then
      let note := Note.known issued.number r.id k v.attempts
      if k < v.attempts then ⟨.attempt q r (k + 1), s, [note]⟩
      else ⟨.refused (.duplicate v.attempts r.id), s, [note]⟩
    else ⟨.finished (.ok issued), s, []⟩
  | .finished result => ⟨.finished result, s, []⟩

/-- The attempts a call makes at most. -/
def Service.tries (v : Service) : Nat :=
  if v.guarded then v.attempts else 1

/-- One turn to resolve, three for each attempt, and one to spare. -/
def Service.bound (v : Service) : Nat :=
  3 * v.tries + 2

/-- Runs a call alone, cutting it off where `cut` says so, for at most `fuel` turns. -/
def Service.run (v : Service) (cut : Call → Bool) : Nat → Call → State → Turn
  | 0, c, s => ⟨c, s, []⟩
  | fuel + 1, c, s =>
    if c.isFinished then ⟨c, s, []⟩
    else if cut c then ⟨c.cut, s, []⟩
    else
      let t := v.turn c s
      let rest := v.run cut fuel t.call t.state
      { rest with notes := t.notes ++ rest.notes }

/-- How a call ended; one that still waits has not been answered in time. -/
def Call.result : Call → Except Failure Issued
  | .finished result => result
  | _ => .error .timedOut

def Service.generate (v : Service) (cut : Call → Bool) (q : Request) (s : State) :
    Outcome Issued :=
  let t := v.run cut v.bound (.start q) s
  ⟨t.call.result, t.state, t.notes⟩

/-- Generates up to `n` numbers for one request and stops at the first failure. -/
def Service.generateMany (v : Service) (cut : Call → Bool) (q : Request) :
    Nat → State → Outcome (Option Issued)
  | 0, s => ⟨.ok none, s, []⟩
  | n + 1, s =>
    let out := v.generate cut q s
    match out.result with
    | .error f => ⟨.error f, out.state, out.notes⟩
    | .ok issued =>
      if n = 0 then ⟨.ok (some issued), out.state, out.notes⟩
      else
        let rest := v.generateMany cut q n out.state
        { rest with notes := out.notes ++ rest.notes }

end DocNumber.Issuing
