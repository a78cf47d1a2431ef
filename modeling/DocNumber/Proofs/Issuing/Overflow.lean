import DocNumber.Fault.Reply
import DocNumber.Proofs.Issuing.Failures
import DocNumber.Proofs.Store.Overflow

/-!
Every failure of a call is foreseen. The rules that calls find have a limit and so print every
value, and were stored under a number that fits; a scope and a limit fit as well. So whichever way a
call fails, it is one that callers are told of.
-/

namespace DocNumber

/-- There is a reply that tells of the failure. -/
def Failure.Foreseen (f : Failure) : Prop :=
  (Reply.ofFailure? f).isSome = true

theorem StorageFault.foreseen {fault : StorageFault} (h : fault ≠ .overflow) :
    (Failure.storage fault).Foreseen := by
  cases fault with
  | overflow => exact absurd rfl h
  | integrity | unavailable => rfl

namespace Issuing

open Store

/-- Calls that work with rules whose numbers fit the store, and fail in ways that are foreseen. -/
def foreseen (e : Engine) : Manner where
  seeks _ := True
  works r := r.Usable ∧ e.Takes r.id
  may := Failure.Foreseen

variable {v : Service} {e : Engine} {s : State} {f : Failure}

theorem resolve_foreseen {documentType department : String} {day : Calendar.Day}
    (h : v.resolve documentType department day s = .error f) : f.Foreseen := by
  rcases resolve_failure h with rfl | ⟨fault, rfl⟩
  · rfl
  · apply StorageFault.foreseen
    rintro rfl
    unfold Service.resolve at h
    split at h
    · rename_i failed
      obtain rfl := Except.error.inj h
      exact Engine.find_no_overflow failed
    · cases h
    · cases h

/-- The scope of a usable rule and its limit fit the store, if the number of the rule does. -/
theorem next_foreseen {r : Rule} (usable : r.Usable) (takes : v.engine.Takes r.id) {limit : Nat}
    (hl : r.limit = .ok limit) (q : Request)
    (h : (v.next (scopeOf r q) limit s).result = .error f) : f.Foreseen := by
  rcases Service.next_failure h with rfl | ⟨fault, rfl⟩
  · rfl
  · apply StorageFault.foreseen
    rintro rfl
    unfold Service.next at h
    split at h
    · cases h
    · obtain ⟨year, month⟩ := fits_day q.day
      refine Engine.next_overflow_iff.mp h ⟨takes, fun _ _ => year, fun _ _ => month, ?_⟩
      exact fun _ _ => usable.fits_limit hl

theorem answers_foreseen (valid : Valid v.engine s) : v.Answers (foreseen v.engine) s where
  resolved q r _ hr := by
    have stored := (resolve_found hr).1
    exact ⟨valid.catalogue.usable r stored, fun lookup table => valid.held lookup table r stored⟩
  unresolved q f _ hf := resolve_foreseen hf
  limited r works := works.1.limit
  denied q r limit f works hl hf := next_foreseen works.1 works.2 hl q hf
  duplicate attempts rule := rfl

theorem start_foreseen (q : Request) : (Call.start q).Within (foreseen e) := by
  unfold Call.start
  split
  · rfl
  · trivial

/-- However calls take turns, none of them fails in a way that is not foreseen. -/
theorem call_foreseen {w : Course} (reached : Reachable e w) {c : Call}
    (hc : c ∈ w.pool.calls) (failed : c.result = .error f) : f.Foreseen := by
  obtain ⟨known, later⟩ := reached.from_start
  have within : w.Within (foreseen e) 0 fun _ => True := by
    refine within_later (.start known) (fun q _ => start_foreseen q) ?_ rfl later
    intro u between v engine
    subst engine
    exact answers_foreseen ((Reachable.start known).later between).sound.valid
  obtain ⟨i, hi⟩ := List.getElem?_of_mem hc
  have inside : i < w.requests.length :=
    reached.sound.paired ▸ (List.getElem?_eq_some_iff.mp hi).1
  exact may_of_result (m := foreseen e) rfl
    (within i _ c (Nat.zero_le i) (List.getElem?_eq_getElem inside) trivial hi) failed

theorem generate_foreseen {w : Course} (reached : Reachable v.engine w) {cut : Call → Bool}
    {q : Request} (failed : (v.generate cut q w.pool.state).result = .error f) : f.Foreseen := by
  obtain ⟨u, c, later, -, calls, -, result⟩ := generate_later w rfl cut q
  rw [result] at failed
  exact call_foreseen (reached.later later) (by simp [calls]) failed

/-- A store that is down hands nothing out. -/
theorem Moves.still {i : Nat} {t : State} {c c' : Call} {gs : List Grant}
    (h : Moves v i s c c' t gs) (down : v.engine = .down) : t = s := by
  cases h with
  | granted issued =>
    unfold Service.next at issued
    split at issued
    · cases issued
    · rw [down] at issued
      cases issued
  | _ => rfl

theorem generate_down (down : v.engine = .down) (valid : Valid v.engine s) (cut : Call → Bool)
    (q : Request) :
    (∀ f, (v.generate cut q s).result = .error f → f.Foreseen) ∧
      (v.generate cut q s).state = s := by
  have ends : (v.run cut v.bound (.start q) s).call.Within (foreseen v.engine) ∧
      (v.run cut v.bound (.start q) s).state = s := by
    refine run_induction (P := fun c t => c.Within (foreseen v.engine) ∧ t = s) ?_ ?_ v.bound
      (.start q) s ⟨start_foreseen q, rfl⟩
    · rintro c t ⟨within, rfl⟩
      have moves := turn_moves v 0 c t
      exact ⟨moves.within (answers_foreseen valid) within, moves.still down⟩
    · rintro c t - ⟨within, rfl⟩
      exact ⟨cut_within (m := foreseen v.engine) rfl within, rfl⟩
  exact ⟨fun f failed => may_of_result (m := foreseen v.engine) rfl ends.1 failed, ends.2⟩

end Issuing

end DocNumber
