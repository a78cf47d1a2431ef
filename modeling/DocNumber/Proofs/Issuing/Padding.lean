import DocNumber.Proofs.Issuing.Attempts

/-!
Requests in different spellings. A call looks at its request once, before its first wait, and goes
on with the codes stripped of the blanks around them (`Call.Follows`): these choose the rule, name
the scope and are printed.
-/

namespace DocNumber.Issuing

open Store

variable {v : Service} {q : Request} {s t u : State} {c c' : Call} {i : Nat} {gs : List Grant}

/-- Where a call for `q` stands that started in `s`, with the store at `t`: it works with a rule
found for `q`, and has moved the counter of their scope and no other. -/
def Call.Follows (v : Service) (q : Request) (s t : State) : Call → Prop
  | .resolving q' => q' = q ∧ t = s
  | .allocating q' r _ _ => q' = q ∧ v.finds s q r ∧ s.Alike (· ≠ scopeOf r q) t
  | .allocated q' r n _ => q' = q ∧ v.finds s q r ∧ OnlyMoved s (scopeOf r q) n t
  | .checking q' r x _ =>
    q' = q ∧ v.finds s q r ∧ OnlyMoved s (scopeOf r q) x.sequence t ∧
      number r q x.sequence = .ok x
  | .finished (.ok x) => ∃ r, v.finds s q r ∧ OnlyMoved s (scopeOf r q) x.sequence t ∧
      number r q x.sequence = .ok x
  | .finished (.error _) => True

theorem attempt_follows {r : Rule} (found : v.finds s q r) (moved : s.Alike (· ≠ scopeOf r q) t)
    (k : Nat) : (Call.attempt q r k).Follows v q s t := by
  unfold Call.attempt
  split
  · trivial
  · exact ⟨rfl, found, moved⟩

theorem Moves.follows (h : Moves v i t c c' u gs) (hc : c.Follows v q s t) :
    c'.Follows v q s u := by
  cases h with
  | unresolved | denied | unprintable | duplicate => trivial
  | resolved found =>
    obtain ⟨rfl, rfl⟩ := hc
    exact attempt_follows found (.refl _ _) 1
  | granted =>
    obtain ⟨rfl, found, alike⟩ := hc
    have counted : OnlyMoved s _ _ t := ⟨rfl, alike⟩
    exact ⟨rfl, found, counted.put _⟩
  | printed printed =>
    obtain ⟨rfl, found, moved⟩ := hc
    obtain rfl := (number_parts printed).2.1
    exact ⟨rfl, found, moved, printed⟩
  | issued printed =>
    obtain ⟨rfl, found, moved⟩ := hc
    obtain rfl := (number_parts printed).2.1
    exact ⟨_, found, moved, printed⟩
  | retried =>
    obtain ⟨rfl, found, moved, -⟩ := hc
    exact attempt_follows found moved.rest _
  | fresh =>
    obtain ⟨rfl, found, moved, printed⟩ := hc
    exact ⟨_, found, moved, printed⟩
  | ended => exact hc

theorem start_follows (v : Service) (q : Request) (s : State) :
    (Call.start q).Follows v q.normalize s s := by
  unfold Call.start
  split
  · trivial
  · rename_i q' accepted
    exact ⟨(Request.accept_ok_iff.mp accepted).2.symm, rfl⟩

theorem cut_follows (hc : c.Follows v q s t) : c.cut.Follows v q s t := by
  cases c with
  | finished result => exact hc
  | resolving | allocating | allocated | checking => trivial

/-- A number that is returned is what the rule found for the stripped request prints, and the
counter of their scope alone has moved, to its value. -/
theorem printed_of_generate {cut : Call → Bool} {x : Issued}
    (h : (v.generate cut q s).result = .ok x) :
    ∃ r, v.finds s q.normalize r ∧ number r q.normalize x.sequence = .ok x ∧
      OnlyMoved s (scopeOf r q.normalize) x.sequence (v.generate cut q s).state := by
  have turn (c : Call) (t : State) (hc : c.Follows v q.normalize s t) :
      (v.turn c t).call.Follows v q.normalize s (v.turn c t).state :=
    (turn_moves v 0 c t).follows hc
  have follows : (v.run cut v.bound (.start q) s).call.Follows v q.normalize s
      (v.run cut v.bound (.start q) s).state := by
    apply run_induction turn
    · intro c t _ hc
      exact cut_follows hc
    · exact start_follows v q s
  simp only [Service.generate] at h ⊢
  cases ended : (v.run cut v.bound (.start q) s).call with
  | finished result =>
    rw [ended] at h follows
    obtain rfl : result = .ok x := h
    obtain ⟨r, found, moved, printed⟩ := follows
    exact ⟨r, found, printed, moved⟩
  | resolving | allocating | allocated | checking =>
    rw [ended] at h
    cases h

theorem start_respaced {q p : Request} (h : q.Respaced p) : Call.start q = Call.start p := by
  rw [Call.start, Call.start, h.accept_eq]

theorem pool_start_respaced {qs ps : List Request} (h : List.Forall₂ Request.Respaced qs ps)
    (s : State) : Pool.start qs s = Pool.start ps s := by
  have calls : qs.map Call.start = ps.map Call.start := by
    induction h with
    | nil => rfl
    | cons first _ ih => rw [List.map_cons, List.map_cons, start_respaced first, ih]
  rw [Pool.start, Pool.start, calls]

/-- Requests that differ in the blanks around their codes only are answered as one: with the same
number or the same failure, and with the same rules and counters after. Both ask for one scope, no
other counter moves, and what is returned is printed from the stripped codes. Nor does any course of
calls side by side tell the spellings apart. -/
theorem generate_respaced (v : Service) (cut : Call → Bool) (s : State) {q p : Request}
    (h : q.Respaced p) :
    v.generate cut q s = v.generate cut p s ∧
    v.scope? s q = v.scope? s p ∧
    s.Alike (fun scope => v.scope? s q ≠ some scope) (v.generate cut p s).state ∧
    (∀ x, (v.generate cut p s).result = .ok x → ∃ r, v.finds s q.normalize r ∧
      number r q.normalize x.sequence = .ok x ∧
      OnlyMoved s (scopeOf r q.normalize) x.sequence (v.generate cut p s).state) ∧
    ∀ (qs ps : List Request) (events : List Event), List.Forall₂ Request.Respaced qs ps →
      (Pool.start qs s).run v events = (Pool.start ps s).run v events := by
  have scopes : v.scope? s q = v.scope? s p := by
    rw [Service.scope?, Service.scope?, h.accept_eq]
  refine ⟨?_, scopes, ?_, ?_, ?_⟩
  · rw [Service.generate, Service.generate, start_respaced h]
  · apply (generate_apart v s ⟨p, cut⟩).mono
    intro scope other asks
    exact other (scopes.trans (scope?_of_asks? asks))
  · intro x returned
    rw [h.normalize_eq]
    exact printed_of_generate returned
  · intro qs ps events respaced
    rw [pool_start_respaced respaced s]

/-- Orders for the department `T` and for `T` with blanks around it: one scope, and the number shows
no blanks. -/
theorem generate_respaced_order :
    let s := (Engine.memory.create invoices .empty).state
    let spaced : Request := { order with documentType := "INV\u2003", department := " T\t" }
    plain.generate (fun _ => false) order s = plain.generate (fun _ => false) spaced s ∧
      (plain.generate (fun _ => false) spaced s).result =
        .ok ⟨"T-202503-001", 1, 1, invoices.template⟩ ∧
      OnlyMoved s ⟨1, 2025, 3, "T"⟩ 1 (plain.generate (fun _ => false) spaced s).state := by
  intro s spaced
  have respaced : order.Respaced spaced :=
    ⟨⟨"INV", ⟨"", "", rfl, rfl, rfl⟩, ⟨"", "\u2003", rfl, by decide +kernel, rfl⟩⟩,
      ⟨"T", ⟨"", "", rfl, rfl, rfl⟩, ⟨" ", "\t", by decide +kernel, by decide +kernel, rfl⟩⟩,
      rfl, rfl⟩
  have returned : (plain.generate (fun _ => false) spaced s).result =
      .ok ⟨"T-202503-001", 1, 1, invoices.template⟩ := by
    decide +kernel
  obtain ⟨same, -, -, printed, -⟩ := generate_respaced plain (fun _ => false) s respaced
  refine ⟨same, returned, ?_⟩
  obtain ⟨r, found, -, moved⟩ := printed _ returned
  have expected : plain.finds s order.normalize (Rule.ofDraft 1 invoices) := by decide +kernel
  obtain rfl : Rule.ofDraft 1 invoices = r := Except.ok.inj (expected.symm.trans found)
  have scope : scopeOf (Rule.ofDraft 1 invoices) order.normalize = ⟨1, 2025, 3, "T"⟩ := by
    decide +kernel
  rwa [scope] at moved

end DocNumber.Issuing
