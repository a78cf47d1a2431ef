import DocNumber.Proofs.Issuing.Ending
import DocNumber.Proofs.Issuing.Undisturbed

/-!
What concurrent calls get out of a store, in any order of turns and with any of them cut off. In
every scope the values from the old counter to the new one are handed out, each once
(`Course.Allocated`). Undisturbed calls return all of them: those after the old counter, as many as
there are calls, and the calls that come after the limit fail (`Course.Completed`).
-/

namespace DocNumber.Issuing

open Store

def Call.sequence? : Call → Option Int
  | .finished (.ok x) => some x.sequence
  | _ => none

namespace Course

variable {v : Service} {s : State} {w : Course} {scope : Scope}

/-- The calls whose requests take their value from the scope. -/
def callsFor (v : Service) (s : State) (scope : Scope) (w : Course) : List Call :=
  ((w.requests.zip w.pool.calls).filter fun p => v.scope? s p.1 = some scope).map Prod.snd

/-- The values that they have returned. -/
def returned (v : Service) (s : State) (scope : Scope) (w : Course) : List Int :=
  (w.callsFor v s scope).filterMap Call.sequence?

/-- How values are handed out and returned in a course that started from `s`. -/
structure Allocated (v : Service) (s : State) (w : Course) : Prop where
  values : ∀ scope, s.counters.last scope ≤ w.pool.state.counters.last scope ∧
    valuesIn scope w.grants = upTo (s.counters.last scope) (w.pool.state.counters.last scope)
  once : (w.grants.map fun g => (g.call, g.attempt)).Nodup
  granted : ∀ i x, w.pool.calls[i]? = some (.finished (.ok x)) → ∃ q scope k,
    w.requests[i]? = some q ∧ v.scope? s q = some scope ∧ ⟨i, k, scope, x.sequence⟩ ∈ w.grants
  distinct : ∀ scope, (w.returned v s scope).Nodup
  inLimit : ∀ scope, ∀ n ∈ w.returned v s scope, ∃ r ∈ s.rules, r.id = scope.rule ∧ InLimit r n

/-- The outcome in one scope when every call for it has come to its end undisturbed. -/
structure Completed (v : Service) (s : State) (scope : Scope) (limit : Nat) (w : Course) :
    Prop where
  counter : w.pool.state.counters.last scope =
    min (s.counters.last scope + (w.callsFor v s scope).length) limit
  returned : (w.returned v s scope).Perm
    (upTo (s.counters.last scope) (w.pool.state.counters.last scope))
  others : ∀ c ∈ w.callsFor v s scope,
    (∃ x, c = .finished (.ok x)) ∨ c = .refused (.exhausted scope limit)

theorem mem_callsFor {c : Call} :
    c ∈ w.callsFor v s scope ↔ ∃ (i : Nat) (q : Request), w.requests[i]? = some q ∧
      w.pool.calls[i]? = some c ∧ v.scope? s q = some scope := by
  simp only [callsFor, List.mem_map, List.mem_filter, decide_eq_true_eq, Prod.exists,
    exists_eq_right]
  constructor
  · rintro ⟨q, hm, hs⟩
    obtain ⟨i, hi⟩ := List.getElem?_of_mem hm
    obtain ⟨hq, hc⟩ := List.getElem?_zip_eq_some.mp hi
    exact ⟨i, q, hq, hc, hs⟩
  · rintro ⟨i, q, hq, hc, hs⟩
    exact ⟨q, List.mem_of_getElem? (List.getElem?_zip_eq_some.mpr ⟨hq, hc⟩), hs⟩

theorem sequence?_eq_some {c : Call} {n : Int} :
    c.sequence? = some n ↔ ∃ x, c = .finished (.ok x) ∧ x.sequence = n := by
  constructor
  · intro h
    unfold Call.sequence? at h
    split at h
    · exact ⟨_, rfl, by simpa using h⟩
    · cases h
  · rintro ⟨x, rfl, rfl⟩
    rfl

theorem finished_cases {c : Call} (h : c.isFinished = true) :
    (∃ x, c = .finished (.ok x)) ∨ ∃ f, c = .finished (.error f) := by
  cases c with
  | finished result =>
    cases result with
    | ok x => exact .inl ⟨x, rfl⟩
    | error f => exact .inr ⟨f, rfl⟩
  | resolving | allocating | allocated | checking => cases h

/-- A value that was returned was handed out to the call, in the scope of its request. -/
theorem Resolved.granted (h : w.Resolved v s) {i : Nat} {x : Issued}
    (hc : w.pool.calls[i]? = some (.finished (.ok x))) :
    ∃ q r q' k, w.requests[i]? = some q ∧ q.accept = .ok q' ∧ v.finds s q' r ∧
      InLimit r x.sequence ∧ v.scope? s q = some (scopeOf r q') ∧
      ⟨i, k, scopeOf r q', x.sequence⟩ ∈ w.grants := by
  have inside := (List.getElem?_eq_some_iff.mp hc).1
  have hq := List.getElem?_eq_getElem (h.sound.paired ▸ inside)
  obtain ⟨q', r, k, accepted, holds, -⟩ := h.sound.serves i _ _ hq hc
  exact ⟨_, r, q', k, hq, accepted, holds.found, holds.inLimit,
    scope?_eq_some accepted holds.found, holds.granted⟩

/-- Two calls of one scope return different values: each was handed out to one call. -/
theorem Resolved.returned_nodup (h : w.Resolved v s) (ledger : w.Ledger s.counters) :
    (w.returned v s scope).Nodup := by
  unfold returned callsFor List.Nodup
  rw [List.pairwise_filterMap, List.pairwise_map, List.pairwise_filter,
    List.pairwise_iff_getElem]
  intro i j hi hj less hsi hsj a ha b hb same
  subst same
  obtain ⟨hqi, hci⟩ := List.getElem?_zip_eq_some.mp (List.getElem?_eq_getElem hi)
  obtain ⟨hqj, hcj⟩ := List.getElem?_zip_eq_some.mp (List.getElem?_eq_getElem hj)
  obtain ⟨x, hx, rfl⟩ := sequence?_eq_some.mp ha
  obtain ⟨y, hy, same⟩ := sequence?_eq_some.mp hb
  rw [hx] at hci
  rw [hy] at hcj
  obtain ⟨p, r, _, k, hp, -, -, -, hs, grant⟩ := h.granted hci
  obtain ⟨p', r', _, k', hp', -, -, -, hs', grant'⟩ := h.granted hcj
  rw [hqi] at hp
  rw [hqj] at hp'
  cases hp
  cases hp'
  have scopes := Option.some.inj <|
    hs.symm.trans ((of_decide_eq_true hsi).trans ((of_decide_eq_true hsj).symm.trans hs'))
  have := congrArg Grant.call (ledger.grant_eq grant grant' scopes same.symm)
  dsimp only at this
  omega

theorem Resolved.allocated (h : w.Resolved v s) (ledger : w.Ledger s.counters) :
    w.Allocated v s where
  values scope := ⟨ledger.grown scope, ledger.values scope⟩
  once := ledger.attempts
  granted i x hc := by
    obtain ⟨q, r, q', k, hq, -, -, -, hs, grant⟩ := h.granted hc
    exact ⟨q, _, k, hq, hs, grant⟩
  distinct scope := h.returned_nodup ledger
  inLimit := by
    intro scope n hn
    obtain ⟨c, hc, hcn⟩ := List.mem_filterMap.mp hn
    obtain ⟨x, rfl, rfl⟩ := sequence?_eq_some.mp hcn
    obtain ⟨i, q, hq, hi, hs⟩ := mem_callsFor.mp hc
    obtain ⟨p, a, q', k, hp, accepted, found, inLimit, hs', -⟩ := h.granted hi
    rw [hq] at hp
    cases hp
    rw [hs] at hs'
    obtain rfl := Option.some.inj hs'
    exact ⟨a, (resolve_found found).1, rfl, inLimit⟩

/-- What was handed out in a scope has been returned once all calls are at their end. -/
theorem Undisturbed.mem_returned (h : w.Undisturbed v s) (ledger : w.Ledger s.counters)
    (ended : ∀ c ∈ w.pool.calls, c.isFinished = true) {n : Int} :
    n ∈ w.returned v s scope ↔ n ∈ valuesIn scope w.grants := by
  rw [mem_valuesIn]
  constructor
  · intro hn
    obtain ⟨c, hc, hcn⟩ := List.mem_filterMap.mp hn
    obtain ⟨x, rfl, rfl⟩ := sequence?_eq_some.mp hcn
    obtain ⟨i, q, hq, hi, hs⟩ := mem_callsFor.mp hc
    obtain ⟨p, r, q', k, hp, -, -, -, hs', grant⟩ := h.resolved.granted hi
    rw [hq] at hp
    cases hp
    exact ⟨_, grant, Option.some.inj (hs'.symm.trans hs), rfl⟩
  · rintro ⟨g, hg, rfl, rfl⟩
    obtain ⟨first, c, hc, holds⟩ := h.kept g hg
    obtain ⟨x, rfl⟩ : ∃ x, c = .finished (.ok x) := by
      rcases finished_cases (ended c (List.mem_of_getElem? hc)) with ok | ⟨f, rfl⟩
      · exact ok
      · cases holds
    obtain ⟨q, r, q', k, hq, -, -, -, hs, grant⟩ := h.resolved.granted hc
    -- The call made one attempt, so this is the grant that it returns.
    have same : (⟨g.call, k, scopeOf r q', x.sequence⟩ : Grant) = g := by
      refine List.inj_on_of_nodup_map ledger.attempts grant hg ?_
      exact Prod.ext rfl ((h.kept _ grant).1.trans first.symm)
    rw [← same]
    exact List.mem_filterMap.mpr ⟨_, mem_callsFor.mpr ⟨_, q, hq, hc, hs⟩, rfl⟩

/-- A call that came to its end without a value found its scope used up. -/
theorem Undisturbed.exhausted (h : w.Undisturbed v s)
    (ended : ∀ c ∈ w.pool.calls, c.isFinished = true) {r : Rule} (hr : r ∈ s.rules)
    (id : r.id = scope.rule) {limit : Nat} (hl : r.limit = .ok limit) {c : Call}
    (hc : c ∈ w.callsFor v s scope) (missing : c.sequence? = none) :
    c = .refused (.exhausted scope limit) ∧ (limit : Int) ≤ w.pool.state.counters.last scope := by
  obtain ⟨i, q, hq, hi, hs⟩ := mem_callsFor.mp hc
  obtain ⟨f, rfl⟩ : ∃ f, c = .finished (.error f) := by
    rcases finished_cases (ended c (List.mem_of_getElem? hi)) with ⟨x, rfl⟩ | failed
    · cases missing
    · exact failed
  obtain ⟨a, limit', ha, id', hl', rfl, le⟩ := h.calls i q _ hq hi scope hs
  have catalogue : Catalogue s.rules := h.resolved.rules ▸ h.resolved.sound.valid.catalogue
  obtain rfl : a = r := catalogue.eq_of_id ha hr (id'.trans id.symm)
  obtain rfl : limit' = limit := by simpa [hl] using hl'.symm
  exact ⟨rfl, le⟩

/-- The values returned are those from the old counter to the new one. -/
theorem Undisturbed.returned_perm (h : w.Undisturbed v s) (ledger : w.Ledger s.counters)
    (ended : ∀ c ∈ w.pool.calls, c.isFinished = true) :
    (w.returned v s scope).Perm
      (upTo (s.counters.last scope) (w.pool.state.counters.last scope)) := by
  apply (List.perm_ext_iff_of_nodup (h.resolved.returned_nodup ledger) (nodup_upTo _ _)).mpr
  intro n
  rw [h.mem_returned ledger ended, ledger.values]

/-- The counter stops at the limit, or has moved by one for every call. -/
theorem Undisturbed.completed (h : w.Undisturbed v s) (ledger : w.Ledger s.counters)
    (ended : ∀ c ∈ w.pool.calls, c.isFinished = true) {r : Rule} (hr : r ∈ s.rules)
    (id : r.id = scope.rule) {limit : Nat} (hl : r.limit = .ok limit) :
    w.Completed v s scope limit := by
  have grown := ledger.grown scope
  have within := h.resolved.sound.valid.last_le (h.resolved.rules ▸ hr) id hl
  have perm : (w.returned v s scope).Perm _ := h.returned_perm ledger ended
  have count : (w.returned v s scope).length =
      (w.pool.state.counters.last scope - s.counters.last scope).toNat := by
    rw [perm.length_eq, length_upTo]
  refine ⟨?_, perm, ?_⟩
  · by_cases all : ∀ c ∈ w.callsFor v s scope, c.sequence?.isSome = true
    · have : (w.returned v s scope).length = (w.callsFor v s scope).length :=
        List.filterMap_length_eq_length.mpr all
      omega
    · -- Some call got nothing, so the counter stands at the limit.
      have : (w.returned v s scope).length ≤ (w.callsFor v s scope).length :=
        List.length_filterMap_le _ _
      simp only [not_forall] at all
      obtain ⟨c, hc, missing⟩ := all
      have := (h.exhausted ended hr id hl hc (Option.not_isSome_iff_eq_none.mp missing)).2
      omega
  · intro c hc
    cases hn : c.sequence? with
    | none => exact .inr (h.exhausted ended hr id hl hc hn).1
    | some n =>
      obtain ⟨x, hx, -⟩ := sequence?_eq_some.mp hn
      exact .inl ⟨x, hx⟩

end Course

/-- From any store in use, any requests made side by side. -/
theorem run_allocated {e : Engine} {u : Course} (reached : Reachable e u) {v : Service}
    (engine : v.engine = e) (requests : List Request) (events : List Event) :
    let s := u.pool.state
    let w := Course.run v (Course.start requests s) events
    w.pool = (Pool.start requests s).run v events ∧
    w.Allocated v s ∧
    (v.Serving → v.guarded = false → (∀ i, Event.cut i ∉ events) →
      (∀ c ∈ w.pool.calls, c.isFinished = true) →
      ∀ scope r limit, r ∈ s.rules → r.id = scope.rule → r.limit = .ok limit →
        w.Completed v s scope limit) ∧
    ((v.guarded = true → 1 ≤ v.attempts) →
      (∀ i < requests.length, v.bound ≤ events.count (.turn i)) →
      ∀ c ∈ w.pool.calls, c.isFinished = true) := by
  intro s w
  have valid : Valid v.engine s := engine ▸ reached.sound.valid
  have ledger : w.Ledger s.counters := (Course.Ledger.start requests s).run v events
  refine ⟨Course.run_pool v events _, ((Course.Resolved.start valid requests).run events).allocated
    ledger, ?_, ?_⟩
  · intro serving unguarded uncut ended scope r limit hr id hl
    exact ((Course.Undisturbed.start valid requests).run serving unguarded uncut).completed
      ledger ended hr id hl
  · intro attempts turns c hc
    obtain ⟨i, hi⟩ := List.getElem?_of_mem hc
    have paired := ((Course.Resolved.start valid requests).run events).sound.paired
    rw [Course.run_requests] at paired
    have inside : i < requests.length := by
      have := (List.getElem?_eq_some_iff.mp hi).1
      exact paired ▸ this
    have start : (Course.start requests s).pool.calls[i]? = some (.start requests[i]) := by
      simp [Course.start, Pool.start, inside]
    obtain ⟨result, finished⟩ := finished_of_turns start
      (Nat.le_trans (turnsLeft_start_le requests[i] attempts) (turns i inside))
    obtain rfl := Option.some.inj (hi.symm.trans finished)
    rfl

theorem run_allocated_invoices :
    let s := (Engine.memory.create invoices .empty).state
    let w := Course.run plain (Course.start [order, order] s)
      (List.replicate 5 [.turn 0, .turn 1]).flatten
    w.Allocated plain s ∧ w.Completed plain s ⟨1, 2025, 3, "T"⟩ 999 := by
  have reached := Reachable.step (.start []) (.create (e := .memory) invoices)
  obtain ⟨-, allocated, completed, ended⟩ := run_allocated (v := plain) reached rfl [order, order]
    (List.replicate 5 [.turn 0, .turn 1]).flatten
  refine ⟨allocated, completed ⟨by decide, by decide⟩ rfl (by simp)
    (ended (by decide) (by decide)) _ (Rule.ofDraft 1 invoices) 999 ?_ rfl ?_⟩
  · decide +kernel
  · decide +kernel

end DocNumber.Issuing
