import DocNumber.Text.Digits

/-!
Counter scopes. Values are handed out per rule, year, month and department; the counters of all
scopes form one table, in which a scope has at most one last value.
-/

namespace DocNumber.Store

structure Scope where
  rule : Int
  year : Int
  month : Int
  department : String
deriving DecidableEq, Repr

/-- Rule, year and month, and the department. -/
def Scope.label (s : Scope) : String :=
  "rule=" ++ String.ofList (Text.integer s.rule) ++ " " ++
    String.ofList (Text.padded 4 s.year) ++ "-" ++ String.ofList (Text.padded 2 s.month) ++
    " dept=" ++ s.department

/-- The last value handed out in each scope that has one. -/
abbrev Counters := List (Scope × Int)

def Counters.last? : Counters → Scope → Option Int
  | [], _ => none
  | (t, n) :: rest, s => if t = s then some n else Counters.last? rest s

/-- A scope without a counter counts as zero. -/
def Counters.last (cs : Counters) (s : Scope) : Int :=
  (cs.last? s).getD 0

def Counters.put (s : Scope) (n : Int) : Counters → Counters
  | [] => [(s, n)]
  | (t, old) :: rest => if t = s then (t, n) :: rest else (t, old) :: Counters.put s n rest

theorem Counters.last?_put (cs : Counters) (s t : Scope) (n : Int) :
    Counters.last? (Counters.put s n cs) t = if s = t then some n else Counters.last? cs t := by
  induction cs with
  | nil => rfl
  | cons c cs ih =>
    obtain ⟨u, old⟩ := c
    by_cases hu : u = s
    · subst hu
      by_cases h : u = t
      · simp [Counters.put, Counters.last?, h]
      · simp [Counters.put, Counters.last?, h]
    · by_cases ht : u = t
      · subst ht
        simp [Counters.put, Counters.last?, hu, Ne.symm hu]
      · simp [Counters.put, Counters.last?, hu, ht, ih]

end DocNumber.Store
