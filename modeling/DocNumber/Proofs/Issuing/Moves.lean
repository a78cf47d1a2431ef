import DocNumber.Issuing.Pool
import DocNumber.Proofs.Rule.Choice
import DocNumber.Proofs.Store.Valid

/-!
What one turn of a call can do. `Moves` lists the cases once, with the value that is handed out
where one is; all that is proved about runs goes through it.
-/

namespace DocNumber.Issuing

open Store

/-- A value handed out, and the attempt of the call that it was handed to. -/
structure Grant where
  call : Nat
  attempt : Nat
  scope : Scope
  value : Int
deriving DecidableEq

/-- What a turn of call `i` hands out. -/
def Service.grants (v : Service) (i : Nat) (c : Call) (s : State) : List Grant :=
  match c with
  | .allocating q r limit k =>
    match (v.next (scopeOf r q) limit s).result with
    | .ok n => [⟨i, k, scopeOf r q, n⟩]
    | .error _ => []
  | _ => []

/-- The next value of a rule's scope. -/
def nextOf (r : Rule) (q : Request) (s : State) : Int :=
  s.counters.last (scopeOf r q) + 1

inductive Moves (v : Service) (i : Nat) (s : State) : Call → Call → State → List Grant → Prop
  | unresolved {q f} (h : v.resolve q.documentType q.department q.day s = .error f) :
      Moves v i s (.resolving q) (.finished (.error f)) s []
  | resolved {q r} (h : v.resolve q.documentType q.department q.day s = .ok r) :
      Moves v i s (.resolving q) (.attempt q r 1) s []
  | denied {q r k f} {limit : Nat} (h : (v.next (scopeOf r q) limit s).result = .error f) :
      Moves v i s (.allocating q r limit k) (.finished (.error f)) s []
  | granted {q r k} {limit : Nat}
      (h : (v.next (scopeOf r q) limit s).result = .ok (nextOf r q s))
      (le : (1 : Int) ≤ limit → nextOf r q s ≤ limit) :
      Moves v i s (.allocating q r limit k) (.allocated q r (nextOf r q s) k)
        (s.putCounter (scopeOf r q) (nextOf r q s)) [⟨i, k, scopeOf r q, nextOf r q s⟩]
  | unprintable {q r n k o} (h : number r q n = .error o) :
      Moves v i s (.allocated q r n k) (.finished (.error (unprinted r o))) s []
  | printed {q r n k x} (h : number r q n = .ok x) (guarded : v.guarded = true) :
      Moves v i s (.allocated q r n k) (.checking q r x k) s []
  | issued {q r n k x} (h : number r q n = .ok x) (unguarded : v.guarded = false) :
      Moves v i s (.allocated q r n k) (.finished (.ok x)) s []
  | retried {q r x k} (known : v.engine.hasNumber x.number s = true) (h : k < v.attempts) :
      Moves v i s (.checking q r x k) (.attempt q r (k + 1)) s []
  | duplicate {q r x k} (known : v.engine.hasNumber x.number s = true) (h : ¬k < v.attempts) :
      Moves v i s (.checking q r x k) (.refused (.duplicate v.attempts r.id)) s []
  | fresh {q r x k} (h : v.engine.hasNumber x.number s = false) :
      Moves v i s (.checking q r x k) (.finished (.ok x)) s []
  | ended {result} : Moves v i s (.finished result) (.finished result) s []

theorem turn_moves (v : Service) (i : Nat) (c : Call) (s : State) :
    Moves v i s c (v.turn c s).call (v.turn c s).state (v.grants i c s) := by
  cases c with
  | resolving q =>
    simp only [Service.turn, Service.grants]
    split
    · exact .unresolved ‹_›
    · exact .resolved ‹_›
  | allocating q r limit k =>
    simp only [Service.turn, Service.grants]
    rcases v.next_cases (scopeOf r q) limit s with ⟨⟨f, hf⟩, same⟩ | ⟨hn, put, le⟩
    · rw [hf, same]
      exact .denied hf
    · rw [hn, put]
      exact .granted hn le
  | allocated q r n k =>
    simp only [Service.turn, Service.grants]
    split
    · exact .unprintable ‹_›
    · split
      · exact .printed ‹_› ‹_›
      · exact .issued ‹_› (eq_false_of_ne_true ‹_›)
  | checking q r x k =>
    simp only [Service.turn, Service.grants]
    split
    · split
      · exact .retried ‹_› ‹_›
      · exact .duplicate ‹_› ‹_›
    · exact .fresh (eq_false_of_ne_true ‹_›)
  | finished result => exact .ended

/-- What every turn and every cut keeps, a call that runs alone keeps. -/
theorem run_induction {v : Service} {cut : Call → Bool} {P : Call → State → Prop}
    (turn : ∀ c s, P c s → P (v.turn c s).call (v.turn c s).state)
    (off : ∀ c s, cut c = true → P c s → P c.cut s) (fuel : Nat) :
    ∀ c s, P c s → P (v.run cut fuel c s).call (v.run cut fuel c s).state := by
  induction fuel with
  | zero =>
    intro c s h
    exact h
  | succ fuel ih =>
    intro c s h
    unfold Service.run
    split
    · exact h
    · split
      · exact off c s ‹_› h
      · exact ih _ _ (turn c s h)

variable {v : Service} {i : Nat} {s t : State} {c c' : Call} {gs : List Grant}

theorem Moves.rules (h : Moves v i s c c' t gs) : t.rules = s.rules := by
  cases h <;> rfl

theorem Moves.known (h : Moves v i s c c' t gs) : t.known = s.known := by
  cases h <;> rfl

end DocNumber.Issuing
