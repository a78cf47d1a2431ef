import DocNumber.Store.Edit
import DocNumber.Store.Memory
import DocNumber.Store.Note

/-!
The stores behind one set of operations. All work on the same state; the table also notes what it
creates and which scopes are used up, and knows existing numbers only through a lookup. A table
that is down checks what it is given and then fails.
-/

namespace DocNumber.Store

inductive Engine
  | memory
  | table (lookup : Bool)
  | down
deriving DecidableEq, Repr

/-- A result, the state after it, and the notes it left. -/
structure Outcome (α : Type) where
  result : Except Failure α
  state : State
  notes : List Note

namespace Engine

def unavailable : Failure := .storage .unavailable

def create (e : Engine) (d : Draft) (s : State) : Outcome Rule :=
  match e with
  | .memory =>
    let (result, s) := Memory.create d s
    ⟨result, s, []⟩
  | .table _ =>
    let (result, s) := Table.create d s
    match result with
    | .ok r => ⟨result, s, [.created r]⟩
    | .error _ => ⟨result, s, []⟩
  | .down =>
    match d.refusal? with
    | some r => ⟨.error (.refused r), s, []⟩
    | none => ⟨.error unavailable, s, []⟩

def get (e : Engine) (id : Int) (s : State) : Except Failure (Option Rule) :=
  match e with
  | .memory => .ok (Memory.get id s)
  | .table _ => Table.get id s
  | .down => .error unavailable

def find (e : Engine) (documentType department : String) (day : Calendar.Day) (s : State) :
    Except Failure (Option Rule) :=
  match e with
  | .memory => .ok (Memory.find documentType department day s)
  | .table _ => .ok (Table.find documentType department day s)
  | .down => .error unavailable

def search (e : Engine) (f : Filters) (limit offset : Int) (s : State) : Except Failure Page :=
  match e with
  | .memory => .ok (Memory.search f limit offset s)
  | .table _ => Table.search f limit offset s
  | .down => .error unavailable

def next (e : Engine) (scope : Scope) (greatest : Int) (s : State) : Outcome Int :=
  match e with
  | .memory =>
    let (result, s) := Memory.next scope greatest s
    ⟨result, s, []⟩
  | .table _ =>
    let (result, s) := Table.next scope greatest s
    match result with
    | .error (.refused (.exhausted scope greatest)) => ⟨result, s, [.exhausted scope greatest]⟩
    | _ => ⟨result, s, []⟩
  | .down => ⟨.error unavailable, s, []⟩

def hasNumber (e : Engine) (number : String) (s : State) : Bool :=
  match e with
  | .memory => Memory.hasNumber number s
  | .table lookup => lookup && s.known.contains number
  | .down => false

def edit (e : Engine) (id : Int) (changes : List Change) (s : State) : Except Failure Unit × State :=
  match e with
  | .memory => (.ok (), s.edit id changes)
  | .table _ => Table.edit id changes s
  | .down => (.error unavailable, s)

def setCounter (e : Engine) (scope : Scope) (n : Int) (s : State) : Except Failure Unit × State :=
  match e with
  | .memory => (.ok (), s.putCounter scope n)
  | .table _ => Table.setCounter scope n s
  | .down => (.error unavailable, s)

end Engine

end DocNumber.Store
