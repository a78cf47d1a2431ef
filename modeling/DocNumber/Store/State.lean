import DocNumber.Rule.Basic
import DocNumber.Store.Scope

/-!
What a store holds: the rules in order of creation, the last value of each scope, the document
numbers that are known to exist, and the number that the next rule gets.
-/

namespace DocNumber.Store

/-- Rules are numbered from one on, and the next number is kept beside them. -/
structure State where
  rules : List Rule
  counters : Counters
  known : List String
  nextId : Int
  nextId_eq : nextId = rules.length + 1

namespace State

/-- The state with these rules, counters and known numbers. -/
def holding (rules : List Rule) (counters : Counters) (known : List String) : State :=
  ⟨rules, counters, known, rules.length + 1, rfl⟩

/-- No rules and no counters. -/
def fresh (known : List String) : State :=
  holding [] [] known

def empty : State :=
  fresh []

def addRule (s : State) (r : Rule) : State where
  rules := s.rules ++ [r]
  counters := s.counters
  known := s.known
  nextId := s.nextId + 1
  nextId_eq := by simp [s.nextId_eq]

def putCounter (s : State) (scope : Scope) (n : Int) : State :=
  { s with counters := Counters.put scope n s.counters }

def addNumber (s : State) (number : String) : State :=
  { s with known := number :: s.known }

def rule? (s : State) (id : Int) : Option Rule :=
  s.rules.find? fun r => r.id == id

@[simp] theorem rules_fresh (known : List String) : (fresh known).rules = [] := rfl

@[simp] theorem counters_fresh (known : List String) : (fresh known).counters = [] := rfl

/-- The next number follows from the rules. -/
theorem ext {s t : State} (rules : s.rules = t.rules) (counters : s.counters = t.counters)
    (known : s.known = t.known) : s = t := by
  obtain ⟨_, _, _, _, numbered⟩ := s
  obtain ⟨_, _, _, _, numbered'⟩ := t
  subst rules counters known
  simp only [numbered, numbered']

end State

end DocNumber.Store
