import DocNumber.Proofs.Issuing.Moves

/-!
The course of calls over a store, with the values that were handed out. Whatever order the calls
take turns in and wherever they are cut off, each call serves the request it was made for
(`Sound.event`): the value it holds was granted to it, in the scope of the rule found for it and
within that rule's limit.
-/

namespace DocNumber.Issuing

open Store

/-- The requests made, where the call for each of them stands, and the values handed out so far,
in order. -/
structure Course where
  requests : List Request
  pool : Pool
  grants : List Grant

namespace Course

def start (requests : List Request) (s : State) : Course :=
  ⟨requests, Pool.start requests s, []⟩

def event (v : Service) (w : Course) (x : Event) : Course :=
  { w with
    pool := w.pool.step v x
    grants := w.grants ++
      match x with
      | .turn i =>
        match w.pool.calls[i]? with
        | some c => v.grants i c w.pool.state
        | none => []
      | .cut _ => [] }

def run (v : Service) (w : Course) (events : List Event) : Course :=
  events.foldl (event v) w

theorem run_cons (v : Service) (w : Course) (x : Event) (events : List Event) :
    run v w (x :: events) = run v (w.event v x) events := rfl

/-- The pool of a course runs as it does without the record. -/
theorem run_pool (v : Service) (events : List Event) :
    ∀ w : Course, (run v w events).pool = w.pool.run v events := by
  induction events with
  | nil =>
    intro w
    rfl
  | cons x events ih =>
    intro w
    exact ih (w.event v x)

theorem run_requests (v : Service) (events : List Event) :
    ∀ w : Course, (run v w events).requests = w.requests := by
  induction events with
  | nil =>
    intro w
    rfl
  | cons x events ih =>
    intro w
    exact ih (w.event v x)

theorem event_turn (v : Service) {w : Course} {i : Nat} {c : Call}
    (hc : w.pool.calls[i]? = some c) :
    w.event v (.turn i) =
      ⟨w.requests, ⟨w.pool.calls.set i (v.turn c w.pool.state).call,
        (v.turn c w.pool.state).state, w.pool.notes ++ (v.turn c w.pool.state).notes⟩,
        w.grants ++ v.grants i c w.pool.state⟩ := by
  simp [event, Pool.step, hc]

theorem event_cut (v : Service) {w : Course} {i : Nat} {c : Call}
    (hc : w.pool.calls[i]? = some c) :
    w.event v (.cut i) =
      ⟨w.requests, ⟨w.pool.calls.set i c.cut, w.pool.state, w.pool.notes⟩, w.grants⟩ := by
  simp [event, Pool.step, hc]

theorem event_absent (v : Service) {w : Course} {i : Nat} (hc : w.pool.calls[i]? = none) :
    w.event v (.turn i) = w ∧ w.event v (.cut i) = w := by
  simp [event, Pool.step, hc]

/-- What one event does: a call moves, a call is cut off, or there is no such call. -/
inductive Advances (v : Service) (w : Course) : Event → Course → Prop
  | turn {i c c' t gs} (notes : List Note) (here : w.pool.calls[i]? = some c)
      (moves : Moves v i w.pool.state c c' t gs) :
      Advances v w (.turn i) ⟨w.requests, ⟨w.pool.calls.set i c', t, notes⟩, w.grants ++ gs⟩
  | cut {i c} (here : w.pool.calls[i]? = some c) :
      Advances v w (.cut i)
        ⟨w.requests, ⟨w.pool.calls.set i c.cut, w.pool.state, w.pool.notes⟩, w.grants⟩
  | idle {x} (absent : ∀ i, x = .turn i → w.pool.calls[i]? = none) : Advances v w x w

theorem event_advances (v : Service) (w : Course) (x : Event) : Advances v w x (w.event v x) := by
  cases x with
  | turn i =>
    cases hc : w.pool.calls[i]? with
    | none =>
      rw [(event_absent v hc).1]
      apply Advances.idle
      intro j hj
      cases hj
      exact hc
    | some c =>
      rw [event_turn v hc]
      exact .turn _ hc (turn_moves v i c w.pool.state)
  | cut i =>
    cases hc : w.pool.calls[i]? with
    | none =>
      rw [(event_absent v hc).2]
      apply Advances.idle
      intro j hj
      cases hj
    | some c =>
      rw [event_cut v hc]
      exact .cut hc

end Course

theorem getElem?_set_cases {α : Type} {xs : List α} {i j : Nat} {a b : α}
    (h : (xs.set i a)[j]? = some b) : (j = i ∧ b = a) ∨ (j ≠ i ∧ xs[j]? = some b) := by
  by_cases hij : j = i
  · subst hij
    rw [List.getElem?_set_self'] at h
    obtain ⟨_, _, hb⟩ := Option.map_eq_some_iff.mp h
    exact .inl ⟨rfl, hb.symm⟩
  · rw [List.getElem?_set_ne (Ne.symm hij)] at h
    exact .inr ⟨hij, h⟩

theorem cut_finished (c : Call) : ∃ result, c.cut = .finished result := by
  cases c <;> exact ⟨_, rfl⟩

theorem number_parts {r : Rule} {q : Request} {n : Int} {x : Issued} (h : number r q n = .ok x) :
    x.rule = r.id ∧ x.sequence = n ∧ x.template = r.template := by
  obtain ⟨_, _, rfl⟩ := Template.map_eq_ok_iff.mp h
  exact ⟨rfl, rfl, rfl⟩

/-- Call `i` holds a value for the request `q`, handed out to its attempt `k`. -/
structure Holds (found : Request → Rule → Prop) (gs : List Grant) (i : Nat) (q : Request)
    (r : Rule) (n : Int) (k : Nat) : Prop where
  found : found q r
  granted : ⟨i, k, scopeOf r q, n⟩ ∈ gs
  inLimit : InLimit r n

/-- A call that was made for `q` still works for it, with a rule found for its normal form. -/
def Call.Serves (found : Request → Rule → Prop) (gs : List Grant) (i : Nat) (q : Request) :
    Call → Prop
  | .resolving q' => q.accept = .ok q'
  | .allocating q' r limit _ => q.accept = .ok q' ∧ found q' r ∧ r.limit = .ok limit
  | .allocated q' r n k => q.accept = .ok q' ∧ Holds found gs i q' r n k
  | .checking q' r x k =>
    q.accept = .ok q' ∧ Holds found gs i q' r x.sequence k ∧ number r q' x.sequence = .ok x
  | .finished (.ok x) =>
    ∃ q' r k,
      q.accept = .ok q' ∧ Holds found gs i q' r x.sequence k ∧ number r q' x.sequence = .ok x
  | .finished (.error _) => True

variable {found found' : Request → Rule → Prop} {gs gs' : List Grant} {i : Nat} {q : Request}

theorem Holds.mono (hf : ∀ q r, found q r → found' q r) (hg : gs ⊆ gs') {r : Rule} {n : Int}
    {k : Nat} (h : Holds found gs i q r n k) : Holds found' gs' i q r n k :=
  ⟨hf _ _ h.found, hg h.granted, h.inLimit⟩

theorem Call.Serves.mono (hf : ∀ q r, found q r → found' q r) (hg : gs ⊆ gs') {c : Call}
    (h : c.Serves found gs i q) : c.Serves found' gs' i q := by
  match c, h with
  | .resolving _, h => exact h
  | .allocating _ _ _ _, ⟨ha, hr, hl⟩ => exact ⟨ha, hf _ _ hr, hl⟩
  | .allocated _ _ _ _, ⟨ha, hh⟩ => exact ⟨ha, hh.mono hf hg⟩
  | .checking _ _ _ _, ⟨ha, hh, hn⟩ => exact ⟨ha, hh.mono hf hg, hn⟩
  | .finished (.ok _), ⟨q', r, k, ha, hh, hn⟩ => exact ⟨q', r, k, ha, hh.mono hf hg, hn⟩
  | .finished (.error _), _ => trivial

theorem start_serves (q : Request) : (Call.start q).Serves found gs i q := by
  unfold Call.start
  split
  · exact trivial
  · assumption

theorem attempt_serves {q' : Request} (ha : q.accept = .ok q') {r : Rule} (hr : found q' r)
    (k : Nat) : (Call.attempt q' r k).Serves found gs i q := by
  unfold Call.attempt
  split
  · exact trivial
  · exact ⟨ha, hr, ‹_›⟩

theorem cut_serves {c : Call} (h : c.Serves found gs i q) : c.cut.Serves found gs i q := by
  cases c with
  | finished result => exact h
  | _ => exact trivial

/-- A turn keeps the call at work for its request, and the store valid. -/
theorem Moves.serves {e : Engine} {v : Service} {s t : State} {c c' : Call}
    (h : Moves v i s c c' t gs') (valid : Valid e s)
    (resolves : ∀ q r, v.resolve q.documentType q.department q.day s = .ok r → found q r)
    (stored : ∀ q r, found q r → r ∈ s.rules) (hc : c.Serves found gs i q) :
    c'.Serves found (gs ++ gs') i q ∧ Valid e t := by
  have grown : gs ⊆ gs ++ gs' := List.subset_append_left gs gs'
  have keep {c : Call} (hc : c.Serves found gs i q) : c.Serves found (gs ++ gs') i q :=
    hc.mono (fun _ _ h => h) grown
  cases h with
  | unresolved => exact ⟨trivial, valid⟩
  | resolved hr => exact ⟨attempt_serves hc (resolves _ _ hr) 1, valid⟩
  | denied => exact ⟨trivial, valid⟩
  | @granted q' r k limit _ le =>
    obtain ⟨accepted, hfound, hl⟩ := hc
    have usable := valid.catalogue.usable r (stored _ _ hfound)
    have nine := (usable.limit_bounds hl).1
    have last := valid.last_nonneg (scopeOf r q')
    have inLimit : InLimit r (nextOf r q' s) :=
      ⟨by unfold nextOf; omega, limit, hl, le (by omega)⟩
    exact ⟨⟨accepted, hfound, by simp, inLimit⟩,
      valid.putCounter (stored _ _ hfound) rfl inLimit⟩
  | unprintable => exact ⟨trivial, valid⟩
  | @printed _ _ _ _ x hx =>
    obtain ⟨accepted, hh⟩ := hc
    obtain rfl := (number_parts hx).2.1
    exact ⟨keep ⟨accepted, hh, hx⟩, valid⟩
  | @issued q' r _ k x hx =>
    obtain ⟨accepted, hh⟩ := hc
    obtain rfl := (number_parts hx).2.1
    exact ⟨keep ⟨q', r, k, accepted, hh, hx⟩, valid⟩
  | retried => exact ⟨attempt_serves hc.1 (hc.2.1.mono (fun _ _ h => h) grown).found _, valid⟩
  | duplicate => exact ⟨trivial, valid⟩
  | @fresh q' r x k =>
    obtain ⟨accepted, hh, hx⟩ := hc
    exact ⟨keep ⟨q', r, k, accepted, hh, hx⟩, valid⟩
  | ended => exact ⟨keep hc, valid⟩

/-- The store is valid, and each call serves the request it was made for. -/
structure Course.Sound (e : Engine) (found : Request → Rule → Prop) (w : Course) : Prop where
  valid : Valid e w.pool.state
  paired : w.pool.calls.length = w.requests.length
  serves : ∀ (i : Nat) (q : Request) (c : Call),
    w.requests[i]? = some q → w.pool.calls[i]? = some c → c.Serves found w.grants i q

/-- Every call was made for a request. -/
theorem Course.Sound.made {e : Engine} {w : Course} (h : w.Sound e found) {i : Nat} {c : Call}
    (hc : w.pool.calls[i]? = some c) : ∃ q, w.requests[i]? = some q :=
  ⟨_, List.getElem?_eq_getElem (h.paired ▸ (List.getElem?_eq_some_iff.mp hc).1)⟩

theorem Course.Sound.start {e : Engine} {s : State} (h : Valid e s) (requests : List Request) :
    (Course.start requests s).Sound e found where
  valid := h
  paired := List.length_map _
  serves := by
    intro i q c hq hc
    change requests[i]? = some q at hq
    change (requests.map Call.start)[i]? = some c at hc
    obtain rfl : Call.start q = c := by simpa [hq] using hc
    exact start_serves q

theorem Course.Sound.event {e : Engine} {v : Service} {w : Course} (h : w.Sound e found)
    (resolves : ∀ q r, v.resolve q.documentType q.department q.day w.pool.state = .ok r → found q r)
    (stored : ∀ q r, found q r → r ∈ w.pool.state.rules) (x : Event) :
    (w.event v x).Sound e found := by
  have advances := event_advances v w x
  generalize w.event v x = next at advances
  cases advances with
  | @turn i c c' t gs _ here moves =>
    have inside : i < w.requests.length := h.paired ▸ (List.getElem?_eq_some_iff.mp here).1
    have moved (q : Request) (hq : w.requests[i]? = some q) :=
      moves.serves h.valid resolves stored (h.serves i q c hq here)
    refine ⟨(moved _ (List.getElem?_eq_getElem inside)).2, by simpa using h.paired, ?_⟩
    intro j q d hq hd
    rcases getElem?_set_cases hd with ⟨rfl, rfl⟩ | ⟨-, old⟩
    · exact (moved q hq).1
    · exact (h.serves j q d hq old).mono (fun _ _ hf => hf) (List.subset_append_left _ _)
  | cut here =>
    refine ⟨h.valid, by simpa using h.paired, ?_⟩
    intro j q c hq hc
    rcases getElem?_set_cases hc with ⟨rfl, rfl⟩ | ⟨-, old⟩
    · exact cut_serves (h.serves _ q _ hq here)
    · exact h.serves j q c hq old
  | idle => exact h

end DocNumber.Issuing
