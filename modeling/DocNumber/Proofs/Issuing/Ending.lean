import DocNumber.Proofs.Issuing.Course

/-!
Calls come to an end. Each turn of a call that has not finished brings it nearer to its end, and
no other event takes it back, so a call that gets its turns finishes in any course of events.
-/

namespace DocNumber.Issuing

open Store

/-- The turns that a call takes at most before it has finished. -/
def Service.turnsLeft (v : Service) : Call → Nat
  | .resolving _ => if v.guarded then 3 * (v.attempts - 1) + 4 else 3
  | .allocating _ _ _ k => if v.guarded then 3 * (v.attempts - k) + 3 else 2
  | .allocated _ _ _ k => if v.guarded then 3 * (v.attempts - k) + 2 else 1
  | .checking _ _ _ k => 3 * (v.attempts - k) + 1
  | .finished _ => 0

variable {v : Service}

theorem turnsLeft_attempt_le (q : Request) (r : Rule) (k : Nat) :
    v.turnsLeft (.attempt q r k) ≤ if v.guarded then 3 * (v.attempts - k) + 3 else 2 := by
  unfold Call.attempt
  split
  · exact Nat.zero_le _
  · exact Nat.le_refl _

theorem turnsLeft_start_le (q : Request) (h : v.guarded = true → 1 ≤ v.attempts) :
    v.turnsLeft (.start q) ≤ v.bound := by
  unfold Call.start
  split
  · exact Nat.zero_le _
  · simp only [Service.turnsLeft, Service.bound, Service.tries]
    split
    · have := h ‹_›
      omega
    · omega

/-- Each turn brings a call nearer to its end. -/
theorem Moves.turnsLeft {i : Nat} {s t : State} {c c' : Call} {gs : List Grant}
    (h : Moves v i s c c' t gs) : v.turnsLeft c' ≤ v.turnsLeft c - 1 := by
  cases h with
  | @resolved q r =>
    have := turnsLeft_attempt_le (v := v) q r 1
    change _ ≤ (if v.guarded then 3 * (v.attempts - 1) + 4 else 3) - 1
    by_cases guarded : v.guarded = true
    · rw [if_pos guarded] at this ⊢
      omega
    · rw [if_neg guarded] at this ⊢
      omega
  | granted => simp only [Service.turnsLeft]; split <;> omega
  | printed _ guarded => simp only [Service.turnsLeft, guarded, ↓reduceIte]; omega
  | @retried q r x k _ below =>
    have := turnsLeft_attempt_le (v := v) q r (k + 1)
    change _ ≤ 3 * (v.attempts - k) + 1 - 1
    split at this <;> omega
  | unresolved | denied | unprintable | issued | duplicate | fresh | ended => exact Nat.zero_le _

theorem turnsLeft_eq_zero {c : Call} (h : v.turnsLeft c = 0) : ∃ result, c = .finished result := by
  cases c with
  | finished result => exact ⟨result, rfl⟩
  | resolving | allocating | allocated | checking =>
    simp only [Service.turnsLeft] at h
    first | omega | (split at h <;> omega)

/-- A call that runs alone and is not cut off comes to its end. -/
theorem run_finished {cut : Call → Bool} (uncut : ∀ c, cut c = false) (fuel : Nat) :
    ∀ c s, v.turnsLeft c ≤ fuel → ∃ result, (v.run cut fuel c s).call = .finished result := by
  induction fuel with
  | zero =>
    intro c s enough
    exact turnsLeft_eq_zero (Nat.le_zero.mp enough)
  | succ fuel ih =>
    intro c s enough
    have less := (turn_moves v 0 c s).turnsLeft
    unfold Service.run
    split
    · cases c with
      | finished result => exact ⟨result, rfl⟩
      | resolving | allocating | allocated | checking => contradiction
    · rw [if_neg (by simp [uncut])]
      exact ih _ _ (by omega)

/-- A call that gets as many turns as it needs ends, whatever happens in between. -/
theorem finished_of_turns {events : List Event} {i : Nat} :
    ∀ {w : Course} {c : Call}, w.pool.calls[i]? = some c →
      v.turnsLeft c ≤ events.count (.turn i) →
      ∃ result, (w.run v events).pool.calls[i]? = some (.finished result) := by
  induction events with
  | nil =>
    intro w c hc enough
    obtain ⟨result, rfl⟩ := turnsLeft_eq_zero (v := v) (c := c) (by simpa using enough)
    exact ⟨result, hc⟩
  | cons x events ih =>
    intro w c hc enough
    rw [Course.run_cons]
    have advances := Course.event_advances v w x
    generalize w.event v x = next at advances
    cases advances with
    | @turn j c₀ c' t gs _ here moves =>
      by_cases same : j = i
      · subst same
        obtain rfl : c₀ = c := by simpa [hc] using here.symm
        have less := moves.turnsLeft
        rw [List.count_cons_self] at enough
        exact ih (c := c') (by simp [(List.getElem?_eq_some_iff.mp hc).1]) (by omega)
      · rw [List.count_cons_of_ne (by simpa using same)] at enough
        exact ih (c := c) (by simpa [List.getElem?_set_ne same] using hc) enough
    | @cut j c₀ here =>
      rw [List.count_cons_of_ne (by simp)] at enough
      by_cases same : j = i
      · subst same
        obtain ⟨result, cut⟩ := cut_finished c₀
        refine ih (c := c₀.cut) (by simp [(List.getElem?_eq_some_iff.mp hc).1]) ?_
        rw [cut]
        exact Nat.zero_le _
      · exact ih (c := c) (by simpa [List.getElem?_set_ne same] using hc) enough
    | idle absent =>
      refine ih hc ?_
      rw [List.count_cons_of_ne] at enough
      · exact enough
      · rintro rfl
        rw [absent i rfl] at hc
        cases hc

end DocNumber.Issuing
