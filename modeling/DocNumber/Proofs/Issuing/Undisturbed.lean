import DocNumber.Proofs.Issuing.Numbers
import DocNumber.Proofs.Issuing.Reachable

/-!
Calls that nobody cuts off, over a store that hands out values, with issued numbers compared with
none. Such a call makes one attempt. A value that is handed out to it ends up in what it returns,
and once a rule is found for it, it fails only when the scope is used up.
-/

namespace DocNumber.Issuing

open Store

/-- The store can be reached, and hands out values. -/
structure Service.Serving (v : Service) : Prop where
  up : v.engine ≠ .down
  prompt : v.allocation ≠ .failing

/-- The scope that a request takes its value from, where there is a rule for it. -/
def Service.scope? (v : Service) (s : State) (q : Request) : Option Scope :=
  match q.accept with
  | .error _ => none
  | .ok q =>
    match v.resolve q.documentType q.department q.day s with
    | .error _ => none
    | .ok r => some (scopeOf r q)

theorem scope?_eq_some {v : Service} {s : State} {q q' : Request} {r : Rule}
    (ha : q.accept = .ok q') (hr : v.resolve q'.documentType q'.department q'.day s = .ok r) :
    v.scope? s q = some (scopeOf r q') := by
  simp only [Service.scope?, ha, hr]

/-- Resolving looks at the rules only. -/
theorem resolve_congr (v : Service) {s t : State} (same : t.rules = s.rules)
    (documentType department : String) (day : Calendar.Day) :
    v.resolve documentType department day t = v.resolve documentType department day s := by
  have found : v.engine.find documentType department day t =
      v.engine.find documentType department day s := by
    cases v.engine <;> simp only [Engine.find, Memory.find, Table.find, same]
  unfold Service.resolve
  rw [found]

/-- A store that serves hands out the values of a usable rule as memory does. -/
theorem next_eq_memory {v : Service} (serving : v.Serving) {s : State} {r : Rule}
    (stored : r ∈ s.rules) (usable : r.Usable) (takes : v.engine.Takes r.id) {limit : Nat}
    (hl : r.limit = .ok limit) (q : Request) :
    ((v.next (scopeOf r q) limit s).result, (v.next (scopeOf r q) limit s).state) =
      Memory.next (scopeOf r q) limit s := by
  have engine : v.next (scopeOf r q) limit s = v.engine.next (scopeOf r q) limit s := by
    have := serving.prompt
    unfold Service.next
    split <;> first | contradiction | rfl
  rw [engine]
  cases he : v.engine with
  | memory => rfl
  | table lookup =>
    obtain ⟨nine, -⟩ := usable.limit_bounds hl
    obtain ⟨year, month⟩ := fits_day q.day
    have known : (s.rule? (scopeOf r q).rule).isSome = true := by
      rw [State.rule?, List.find?_isSome]
      exact ⟨r, stored, beq_self_eq_true r.id⟩
    obtain ⟨result, state⟩ := Engine.next_table lookup (scopeOf r q) limit s
    rw [result, state]
    exact Table.next_eq_memory (takes lookup he) year month (usable.fits_limit hl) (by omega) known
  | down => exact absurd he serving.up

/-- A store that serves hands out the next value, up to the limit. -/
theorem next_result {v : Service} (serving : v.Serving) {s : State} (valid : Valid v.engine s)
    {r : Rule} (hr : r ∈ s.rules) {limit : Nat} (hl : r.limit = .ok limit) (q : Request) :
    (v.next (scopeOf r q) limit s).result = (Memory.next (scopeOf r q) limit s).1 :=
  congrArg Prod.fst (next_eq_memory serving hr (valid.catalogue.usable r hr)
    (fun lookup table => valid.held lookup table r hr) hl q)

theorem next_error {v : Service} (serving : v.Serving) {s : State} (valid : Valid v.engine s)
    {r : Rule} (hr : r ∈ s.rules) {limit : Nat} (hl : r.limit = .ok limit) {q : Request}
    {f : Failure} (h : (v.next (scopeOf r q) limit s).result = .error f) :
    f = .refused (.exhausted (scopeOf r q) limit) ∧ limit ≤ s.counters.last (scopeOf r q) := by
  rw [next_result serving valid hr hl, Memory.next_eq] at h
  split at h
  · exact ⟨(Except.error.inj h).symm, by omega⟩
  · cases h

theorem Moves.grown {v : Service} {i : Nat} {s t : State} {c c' : Call} {gs : List Grant}
    (h : Moves v i s c c' t gs) (scope : Scope) :
    s.counters.last scope ≤ t.counters.last scope := by
  rcases h.grants with ⟨-, same, -⟩ | ⟨_, granted, -, -, -, rfl⟩
  · exact Int.le_of_eq (congrArg (Counters.last · scope) same.symm)
  · change _ ≤ Counters.last (Counters.put _ _ _) scope
    rw [last_put]
    split
    · rename_i same
      subst same
      omega
    · exact Int.le_refl _

/-- A value was handed out to the call, and not given up. -/
def Call.holds : Call → Bool
  | .allocated _ _ _ _ => true
  | .finished (.ok _) => true
  | _ => false

/-- Where a call for `q` can stand when nothing disturbs it; its rule is looked for in `s`, and
the counters are those of `t`. -/
def Call.Undisturbed (v : Service) (s t : State) (q : Request) : Call → Prop
  | .allocating _ _ _ k => k = 1
  | .checking _ _ _ _ => False
  | .finished (.error f) =>
    ∀ scope, v.scope? s q = some scope → ∃ r limit, r ∈ s.rules ∧ r.id = scope.rule ∧
      r.limit = .ok limit ∧ f = .refused (.exhausted scope limit) ∧
      (limit : Int) ≤ t.counters.last scope
  | _ => True

theorem Call.Undisturbed.mono {v : Service} {s t t' : State} {q : Request} {c : Call}
    (h : c.Undisturbed v s t q)
    (grown : ∀ scope, t.counters.last scope ≤ t'.counters.last scope) :
    c.Undisturbed v s t' q := by
  cases c with
  | resolving | allocating | allocated | checking => exact h
  | finished result =>
    cases result with
    | ok => trivial
    | error f =>
      intro scope hs
      obtain ⟨r, limit, hr, id, hl, hf, le⟩ := h scope hs
      exact ⟨r, limit, hr, id, hl, hf, Int.le_trans le (grown scope)⟩

theorem start_undisturbed (v : Service) (s t : State) (q : Request) :
    (Call.start q).Undisturbed v s t q := by
  unfold Call.start
  split
  · rename_i ha
    intro scope hs
    simp [Service.scope?, ha] at hs
  · trivial

theorem attempt_undisturbed {v : Service} {s t : State} {q q' : Request} {r : Rule}
    (usable : r.Usable) : (Call.attempt q' r 1).Undisturbed v s t q := by
  obtain ⟨limit, hl⟩ := usable.limit
  unfold Call.attempt
  rw [hl]
  rfl

/-- The rule that a request resolves to in `s`. -/
abbrev Service.finds (v : Service) (s : State) (q : Request) (r : Rule) : Prop :=
  v.resolve q.documentType q.department q.day s = .ok r

/-- A turn keeps an undisturbed call so, and a value once held is kept. -/
theorem Moves.undisturbed {v : Service} {i : Nat} {s t t' : State} {c c' : Call} {q : Request}
    {gs gs' : List Grant} (h : Moves v i t c c' t' gs') (serving : v.Serving)
    (unguarded : v.guarded = false) (valid : Valid v.engine t) (rules : t.rules = s.rules)
    (serves : c.Serves (v.finds s) gs i q) (hc : c.Undisturbed v s t q) :
    c'.Undisturbed v s t' q ∧ (c.holds = true → c'.holds = true) ∧
      ∀ g ∈ gs', g.call = i ∧ g.attempt = 1 ∧ c'.holds = true := by
  have stored {q r} (found : v.finds s q r) : r ∈ t.rules := rules ▸ (resolve_found found).1
  cases h with
  | @unresolved q' f hf =>
    refine ⟨?_, fun held => (by cases held), by simp⟩
    intro scope hs
    rw [resolve_congr v rules] at hf
    change q.accept = .ok q' at serves
    simp [Service.scope?, serves, hf] at hs
  | @resolved q' r hr =>
    rw [resolve_congr v rules] at hr
    exact ⟨attempt_undisturbed (valid.catalogue.usable r (stored hr)), fun held => (by cases held),
      by simp⟩
  | @denied q' r k f limit hf =>
    obtain ⟨accepted, found, hl⟩ := serves
    obtain ⟨rfl, used⟩ := next_error serving valid (stored found) hl hf
    refine ⟨?_, fun held => (by cases held), by simp⟩
    intro scope hs
    obtain rfl : scopeOf r q' = scope := by simpa [scope?_eq_some accepted found] using hs
    exact ⟨r, limit, rules ▸ stored found, rfl, hl, rfl, used⟩
  | granted =>
    obtain rfl : _ = 1 := hc
    exact ⟨trivial, fun _ => rfl, by simp [Call.holds]⟩
  | @unprintable q' r n k f hf =>
    obtain ⟨-, holds⟩ := serves
    obtain ⟨x, hx⟩ := number_usable (valid.catalogue.usable r (stored holds.found)) q' n
    rw [hx] at hf
    cases hf
  | printed _ guarded =>
    rw [unguarded] at guarded
    cases guarded
  | issued => exact ⟨trivial, fun _ => rfl, by simp⟩
  | retried | duplicate | fresh => exact hc.elim
  | ended => exact ⟨hc, fun h => h, by simp⟩

namespace Course

variable {v : Service} {s : State} {w : Course}

/-- In a run from `s` on, a call works with the rule that its request resolves to in `s`. -/
structure Resolved (v : Service) (s : State) (w : Course) : Prop where
  sound : w.Sound v.engine (v.finds s)
  rules : w.pool.state.rules = s.rules

theorem Resolved.start (valid : Valid v.engine s) (requests : List Request) :
    (start requests s).Resolved v s :=
  ⟨.start valid requests, rfl⟩

theorem Resolved.event (h : w.Resolved v s) (x : Event) : (w.event v x).Resolved v s := by
  refine ⟨h.sound.event ?_ ?_ x, (event_rules v w x).trans h.rules⟩
  · intro q r hr
    exact (resolve_congr v h.rules _ _ _).symm.trans hr
  · intro q r hr
    exact h.rules ▸ (resolve_found hr).1

theorem Resolved.run (h : w.Resolved v s) (events : List Event) :
    (run v w events).Resolved v s := by
  induction events generalizing w with
  | nil => exact h
  | cons x events ih => exact ih (h.event x)

structure Undisturbed (v : Service) (s : State) (w : Course) : Prop where
  resolved : w.Resolved v s
  calls : ∀ (i : Nat) (q : Request) (c : Call), w.requests[i]? = some q →
    w.pool.calls[i]? = some c → c.Undisturbed v s w.pool.state q
  kept : ∀ g ∈ w.grants, g.attempt = 1 ∧
    ∃ c, w.pool.calls[g.call]? = some c ∧ c.holds = true

theorem Undisturbed.start (valid : Valid v.engine s) (requests : List Request) :
    (start requests s).Undisturbed v s where
  resolved := .start valid requests
  calls := by
    intro i q c hq hc
    change requests[i]? = some q at hq
    change (requests.map Call.start)[i]? = some c at hc
    obtain rfl : Call.start q = c := by simpa [hq] using hc
    exact start_undisturbed v s s q
  kept g hg := by cases hg

/-- Only cutting a call off disturbs a course; turns do not. -/
theorem Undisturbed.turn (h : w.Undisturbed v s) (serving : v.Serving)
    (unguarded : v.guarded = false) (j : Nat) : (w.event v (.turn j)).Undisturbed v s := by
  have resolved := h.resolved.event (.turn j)
  have advances := event_advances v w (.turn j)
  generalize w.event v (.turn j) = next at advances resolved
  cases advances with
  | @turn _ c c' t gs _ here moves =>
    have sound := h.resolved.sound
    have inside := (List.getElem?_eq_some_iff.mp here).1
    have hq := List.getElem?_eq_getElem (sound.paired ▸ inside)
    obtain ⟨undisturbed, held, granted⟩ :=
      moves.undisturbed serving unguarded sound.valid h.resolved.rules
        (sound.serves j _ c hq here) (h.calls j _ c hq here)
    have moved : (w.pool.calls.set j c')[j]? = some c' := by simp [inside]
    refine ⟨resolved, ?_, ?_⟩
    · intro i q d hi hd
      rcases getElem?_set_cases hd with ⟨rfl, rfl⟩ | ⟨-, old⟩
      · obtain rfl := Option.some.inj (hq.symm.trans hi)
        exact undisturbed
      · exact (h.calls i q d hi old).mono moves.grown
    · intro g hg
      rcases List.mem_append.mp hg with old | new
      · obtain ⟨first, d, hd, holds⟩ := h.kept g old
        by_cases same : g.call = j
        · rw [same, here] at hd
          cases hd
          exact ⟨first, c', same ▸ moved, held holds⟩
        · exact ⟨first, d, (List.getElem?_set_ne (Ne.symm same)).trans hd, holds⟩
      · obtain ⟨mine, first, holds⟩ := granted g new
        exact ⟨first, c', mine ▸ moved, holds⟩
  | idle => exact h

theorem Undisturbed.run (h : w.Undisturbed v s) (serving : v.Serving)
    (unguarded : v.guarded = false) {events : List Event} (uncut : ∀ i, Event.cut i ∉ events) :
    (run v w events).Undisturbed v s := by
  induction events generalizing w with
  | nil => exact h
  | cons x events ih =>
    have rest : ∀ i, Event.cut i ∉ events := by
      intro i hi
      exact uncut i (List.mem_cons_of_mem _ hi)
    cases x with
    | turn j => exact ih (h.turn serving unguarded j) rest
    | cut j => exact absurd List.mem_cons_self (uncut j)

end Course

end DocNumber.Issuing
