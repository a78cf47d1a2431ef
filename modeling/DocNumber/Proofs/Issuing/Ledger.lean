import DocNumber.Proofs.Issuing.Course
import Mathlib.Data.List.Nodup

/-!
The record of values handed out. In every scope it lists the numbers from the first after the
counter at the start up to the counter now, one after the other (`Ledger.event`), and no attempt
of a call occurs in it twice. So a scope and a value determine who got it.
-/

namespace DocNumber.Issuing

open Store

/-- The numbers after `a` up to and with `b`. -/
def upTo (a b : Int) : List Int :=
  (List.range (b - a).toNat).map fun (k : Nat) => a + 1 + (k : Int)

theorem upTo_self (a : Int) : upTo a a = [] := by
  simp [upTo]

theorem upTo_succ {a b : Int} (h : a ≤ b) : upTo a (b + 1) = upTo a b ++ [b + 1] := by
  unfold upTo
  rw [show (b + 1 - a).toNat = (b - a).toNat + 1 by omega, List.range_succ, List.map_append]
  simp only [List.map_cons, List.map_nil, List.append_cancel_left_eq, List.cons.injEq, and_true]
  omega

theorem nodup_upTo (a b : Int) : (upTo a b).Nodup := by
  apply List.Nodup.map _ List.nodup_range
  intro k l h
  have same : a + 1 + (k : Int) = a + 1 + l := h
  omega

theorem length_upTo (a b : Int) : (upTo a b).length = (b - a).toNat := by
  simp [upTo]

def valuesIn (scope : Scope) (gs : List Grant) : List Int :=
  (gs.filter fun g => g.scope = scope).map Grant.value

theorem valuesIn_append (scope : Scope) (gs hs : List Grant) :
    valuesIn scope (gs ++ hs) = valuesIn scope gs ++ valuesIn scope hs := by
  simp [valuesIn]

theorem mem_valuesIn {scope : Scope} {gs : List Grant} {n : Int} :
    n ∈ valuesIn scope gs ↔ ∃ g ∈ gs, g.scope = scope ∧ g.value = n := by
  simp only [valuesIn, List.mem_map, List.mem_filter, decide_eq_true_eq, and_assoc]

/-- The next attempt that a call can be granted a value for. -/
def Call.upcoming : Call → Option Nat
  | .resolving _ => some 1
  | .allocating _ _ _ k => some k
  | .allocated _ _ _ k => some (k + 1)
  | .checking _ _ _ k => some (k + 1)
  | .finished _ => none

theorem attempt_upcoming {q : Request} {r : Rule} {k k' : Nat}
    (h : (Call.attempt q r k).upcoming = some k') : k' = k := by
  unfold Call.attempt at h
  split at h
  · cases h
  · cases h
    rfl

/-- A turn hands out nothing and leaves the counters, or hands the next value of one scope to the
attempt that is up. -/
theorem Moves.grants {v : Service} {i : Nat} {s t : State} {c c' : Call} {gs : List Grant}
    (h : Moves v i s c c' t gs) :
    (gs = [] ∧ t.counters = s.counters ∧
        ∀ k', c'.upcoming = some k' → ∃ k, c.upcoming = some k ∧ k ≤ k') ∨
      ∃ k scope, c.upcoming = some k ∧ c'.upcoming = some (k + 1) ∧
        gs = [⟨i, k, scope, s.counters.last scope + 1⟩] ∧
        t = s.putCounter scope (s.counters.last scope + 1) := by
  cases h with
  | resolved =>
    refine .inl ⟨rfl, rfl, ?_⟩
    intro k' hk
    exact ⟨1, rfl, Nat.le_of_eq (attempt_upcoming hk).symm⟩
  | @granted q r k => exact .inr ⟨k, scopeOf r q, rfl, rfl, rfl, rfl⟩
  | @retried _ _ _ k =>
    refine .inl ⟨rfl, rfl, ?_⟩
    intro k' hk
    exact ⟨k + 1, rfl, Nat.le_of_eq (attempt_upcoming hk).symm⟩
  | printed =>
    refine .inl ⟨rfl, rfl, ?_⟩
    intro k' hk
    exact ⟨k', hk, Nat.le_refl _⟩
  | unresolved | denied | unprintable | issued | duplicate | fresh | ended =>
    refine .inl ⟨rfl, rfl, ?_⟩
    intro k' hk
    cases hk

/-- The record since the counters stood at `base`: each scope lists the values after its counter
then, in order, and every attempt that is still up has been handed nothing. -/
structure Course.Ledger (base : Counters) (w : Course) : Prop where
  grown : ∀ scope, base.last scope ≤ w.pool.state.counters.last scope
  values : ∀ scope, valuesIn scope w.grants =
    upTo (base.last scope) (w.pool.state.counters.last scope)
  attempts : (w.grants.map fun g => (g.call, g.attempt)).Nodup
  callers : ∀ g ∈ w.grants, g.call < w.pool.calls.length
  spent : ∀ (i : Nat) (c : Call) (k : Nat), w.pool.calls[i]? = some c → c.upcoming = some k →
    ∀ g ∈ w.grants, g.call = i → g.attempt < k

namespace Course.Ledger

variable {base : Counters} {w : Course}

theorem start (requests : List Request) (s : State) :
    (Course.start requests s).Ledger s.counters where
  grown _ := Int.le_refl _
  values scope := (upTo_self _).symm
  attempts := List.nodup_nil
  callers _ h := by cases h
  spent _ _ _ _ _ _ h := by cases h

/-- A call that moves without a value is up for no earlier attempt than before. -/
theorem moved (h : w.Ledger base) {i : Nat} {c c' : Call} {t : State} {notes : List Note}
    (here : w.pool.calls[i]? = some c) (counters : t.counters = w.pool.state.counters)
    (kept : ∀ k', c'.upcoming = some k' → ∃ k, c.upcoming = some k ∧ k ≤ k') :
    Course.Ledger base ⟨w.requests, ⟨w.pool.calls.set i c', t, notes⟩, w.grants⟩ where
  grown scope := by simpa only [counters] using h.grown scope
  values scope := by simpa only [counters] using h.values scope
  attempts := h.attempts
  callers := by simpa using h.callers
  spent := by
    intro j d k' hd hk g hg same
    rcases getElem?_set_cases hd with ⟨rfl, rfl⟩ | ⟨-, old⟩
    · obtain ⟨k, up, le⟩ := kept k' hk
      exact Nat.lt_of_lt_of_le (h.spent j c k here up g hg same) le
    · exact h.spent j d k' old hk g hg same

/-- The next value of a scope continues the values of that scope. -/
theorem next_values (h : w.Ledger base) (i k : Nat) (scope other : Scope) :
    let n := w.pool.state.counters.last scope + 1
    let last := (w.pool.state.putCounter scope n).counters.last other
    base.last other ≤ last ∧
      valuesIn other (w.grants ++ [⟨i, k, scope, n⟩]) = upTo (base.last other) last := by
  intro n last
  have grown := h.grown scope
  have put : last = if scope = other then n else w.pool.state.counters.last other :=
    last_put w.pool.state.counters scope other n
  rw [put, valuesIn_append, h.values other]
  by_cases same : scope = other
  · subst same
    rw [if_pos rfl, upTo_succ grown]
    refine ⟨by omega, ?_⟩
    simp [valuesIn, n]
  · rw [if_neg same]
    refine ⟨h.grown other, ?_⟩
    simp [valuesIn, same]

/-- An attempt that is up was handed nothing before. -/
theorem next_attempt (h : w.Ledger base) {i k : Nat} {c : Call}
    (here : w.pool.calls[i]? = some c) (up : c.upcoming = some k) (scope : Scope) (n : Int) :
    ((w.grants ++ [(⟨i, k, scope, n⟩ : Grant)]).map fun g => (g.call, g.attempt)).Nodup := by
  rw [List.map_append, List.nodup_append]
  refine ⟨h.attempts, by simp, ?_⟩
  intro a ha b hb same
  obtain ⟨g, hg, rfl⟩ := List.mem_map.mp ha
  obtain rfl := List.mem_singleton.mp hb
  obtain ⟨hcall, hattempt⟩ := Prod.mk.inj same
  have := h.spent i c k here up g hg hcall
  dsimp only at hattempt
  omega

theorem granted (h : w.Ledger base) {i k : Nat} {c c' : Call} {notes : List Note}
    (here : w.pool.calls[i]? = some c) (up : c.upcoming = some k)
    (up' : c'.upcoming = some (k + 1)) (scope : Scope) :
    let n := w.pool.state.counters.last scope + 1
    Course.Ledger base ⟨w.requests, ⟨w.pool.calls.set i c', w.pool.state.putCounter scope n, notes⟩,
      w.grants ++ [⟨i, k, scope, n⟩]⟩ := by
  intro n
  refine ⟨?_, ?_, h.next_attempt here up scope n, ?_, ?_⟩
  · intro other
    exact (h.next_values i k scope other).1
  · intro other
    exact (h.next_values i k scope other).2
  · intro g hg
    rcases List.mem_append.mp hg with old | new
    · simpa using h.callers g old
    · obtain rfl := List.mem_singleton.mp new
      simpa using (List.getElem?_eq_some_iff.mp here).1
  · intro j d k' hd hk g hg same
    rcases getElem?_set_cases hd with ⟨rfl, rfl⟩ | ⟨ne, old⟩
    · obtain rfl : k + 1 = k' := by simpa [up'] using hk
      rcases List.mem_append.mp hg with earlier | new
      · exact Nat.lt_succ_of_lt (h.spent j c k here up g earlier same)
      · obtain rfl := List.mem_singleton.mp new
        exact Nat.lt_succ_self k
    · rcases List.mem_append.mp hg with earlier | new
      · exact h.spent j d k' old hk g earlier same
      · obtain rfl := List.mem_singleton.mp new
        exact absurd same.symm ne

theorem event (h : w.Ledger base) (v : Service) (x : Event) : (w.event v x).Ledger base := by
  have advances := event_advances v w x
  generalize w.event v x = next at advances
  cases advances with
  | turn notes here moves =>
    rcases moves.grants with ⟨rfl, counters, kept⟩ | ⟨k, scope, up, up', rfl, rfl⟩
    · simpa only [List.append_nil] using h.moved here counters kept
    · exact h.granted here up up' scope
  | cut here =>
    apply h.moved here rfl
    intro k up
    obtain ⟨result, cut⟩ := cut_finished ‹_›
    rw [cut] at up
    cases up
  | idle => exact h

theorem run (h : w.Ledger base) (v : Service) (events : List Event) :
    (Course.run v w events).Ledger base := by
  induction events generalizing w with
  | nil => exact h
  | cons x events ih => exact ih (h.event v x)

/-- A value of a scope is handed out once. -/
theorem grant_eq (h : w.Ledger base) {g g' : Grant} (hg : g ∈ w.grants) (hg' : g' ∈ w.grants)
    (scope : g.scope = g'.scope) (value : g.value = g'.value) : g = g' := by
  have nodup : (valuesIn g.scope w.grants).Nodup := h.values g.scope ▸ nodup_upTo _ _
  exact List.inj_on_of_nodup_map nodup (by simp [hg]) (by simp [hg', scope]) value

end Course.Ledger

end DocNumber.Issuing
