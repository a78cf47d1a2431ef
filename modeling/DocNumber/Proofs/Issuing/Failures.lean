import DocNumber.Proofs.Issuing.Numbers
import DocNumber.Proofs.Issuing.Reachable

/-!
What a call can fail with. A `Manner` says which requests calls seek a rule for, which rules they
work with and how they may fail; where the store answers in kind, every turn keeps calls to it
(`Moves.within`). Once a call works with a rule that has a limit, only what is listed in
`Failure.Late` can end it.
-/

namespace DocNumber

/-- It can be said how far the values of the rule go. -/
def Rule.Limited (r : Rule) : Prop :=
  ∃ limit, r.limit = .ok limit

/-- What can still strike a call that has found a rule with a limit: no value or no attempt is
left, storage fails, or time is up. -/
inductive Failure.Late : Failure → Prop
  | exhausted (scope : Store.Scope) (limit : Int) : Late (.refused (.exhausted scope limit))
  | duplicate (attempts : Nat) (rule : Int) : Late (.refused (.duplicate attempts rule))
  | storage (fault : StorageFault) : Late (.storage fault)
  | timedOut : Late .timedOut

theorem Failure.Late.refusal {r : Refusal} (h : Failure.Late (.refused r)) :
    (∃ scope limit, r = .exhausted scope limit) ∨
      ∃ attempts rule, r = .duplicate attempts rule := by
  cases h with
  | exhausted scope limit => exact .inl ⟨scope, limit, rfl⟩
  | duplicate attempts rule => exact .inr ⟨attempts, rule, rfl⟩

namespace Issuing

open Store

structure Manner where
  seeks : Request → Prop
  works : Rule → Prop
  may : Failure → Prop

def Call.Within (m : Manner) : Call → Prop
  | .resolving q => m.seeks q
  | .allocating _ r limit _ => m.works r ∧ r.limit = .ok limit
  | .allocated _ r _ _ => m.works r
  | .checking _ r _ _ => m.works r
  | .finished (.ok _) => True
  | .finished (.error f) => m.may f

/-- Whatever such a call asks for, the answer keeps it to its manner. -/
structure Service.Answers (v : Service) (m : Manner) (s : State) : Prop where
  resolved : ∀ q r, m.seeks q → v.resolve q.documentType q.department q.day s = .ok r → m.works r
  unresolved : ∀ q f, m.seeks q → v.resolve q.documentType q.department q.day s = .error f → m.may f
  limited : ∀ r, m.works r → r.Limited
  denied : ∀ q r (limit : Nat) f, m.works r → r.limit = .ok limit →
    (v.next (scopeOf r q) limit s).result = .error f → m.may f
  duplicate : ∀ attempts rule, m.may (.refused (.duplicate attempts rule))

variable {v : Service} {m : Manner} {s t : State} {c c' : Call} {i : Nat} {gs : List Grant}

theorem attempt_within {r : Rule} (works : m.works r) (limited : r.Limited) (q : Request)
    (k : Nat) : (Call.attempt q r k).Within m := by
  obtain ⟨limit, hl⟩ := limited
  simp only [Call.attempt, hl]
  exact ⟨works, hl⟩

theorem cut_within (late : m.may .timedOut) (hc : c.Within m) : c.cut.Within m := by
  cases c with
  | finished result => exact hc
  | resolving | allocating | allocated | checking => exact late

/-- The failure that is reported is one that the manner allows. -/
theorem may_of_result (late : m.may .timedOut) (hc : c.Within m) {f : Failure}
    (hf : c.result = .error f) : m.may f := by
  cases c with
  | finished result =>
    obtain rfl : result = .error f := hf
    exact hc
  | resolving | allocating | allocated | checking =>
    obtain rfl : Failure.timedOut = f := Except.error.inj hf
    exact late

/-- A turn keeps a call to its manner; a rule with a limit prints every value. -/
theorem Moves.within (h : Moves v i s c c' t gs) (answers : v.Answers m s) (hc : c.Within m) :
    c'.Within m := by
  cases h with
  | unresolved hf => exact answers.unresolved _ _ hc hf
  | resolved hr =>
    have works := answers.resolved _ _ hc hr
    exact attempt_within works (answers.limited _ works) _ 1
  | denied hf => exact answers.denied _ _ _ _ hc.1 hc.2 hf
  | granted => exact hc.1
  | @unprintable q r n _ o ho =>
    obtain ⟨limit, hl⟩ := answers.limited r hc
    obtain ⟨x, hx⟩ := number_of_limit hl q n
    cases ho.symm.trans hx
  | printed => exact hc
  | issued => trivial
  | retried => exact attempt_within hc (answers.limited _ hc) _ _
  | duplicate => exact answers.duplicate _ _
  | fresh => trivial
  | ended => exact hc

/-- The calls from number `n` on, made for requests of some kind, keep to their manner. -/
def Course.Within (m : Manner) (n : Nat) (made : Request → Prop) (w : Course) : Prop :=
  ∀ (i : Nat) (q : Request) (c : Call), n ≤ i → w.requests[i]? = some q → made q →
    w.pool.calls[i]? = some c → c.Within m

variable {e : Engine} {w u : Course} {n : Nat} {made : Request → Prop}

theorem Step.within (h : Step e w u) (hw : w.Within m n made)
    (paired : w.pool.calls.length = w.requests.length)
    (start : ∀ q, made q → (Call.start q).Within m)
    (answers : ∀ v : Service, v.engine = e → v.Answers m w.pool.state)
    (late : m.may .timedOut) : u.Within m n made := by
  cases h with
  | create | insert | learn => exact hw
  | request p =>
    intro i q c hi hq hm hc
    rcases getElem?_concat_cases hc with old | ⟨last, rfl⟩
    · rcases getElem?_concat_cases hq with old' | ⟨beyond, -⟩
      · exact hw i q c hi old' hm old
      · have := (List.getElem?_eq_some_iff.mp old).1
        omega
    · rcases getElem?_concat_cases hq with old' | ⟨-, rfl⟩
      · have := (List.getElem?_eq_some_iff.mp old').1
        omega
      · exact start q hm
  | event v engine x =>
    have advances := Course.event_advances v w x
    generalize w.event v x = next at advances
    intro i q c hi hq hm hc
    cases advances with
    | turn _ here moves =>
      rcases getElem?_set_cases hc with ⟨rfl, rfl⟩ | ⟨-, old⟩
      · exact moves.within (answers v engine) (hw i q _ hi hq hm here)
      · exact hw i q c hi hq hm old
    | cut here =>
      rcases getElem?_set_cases hc with ⟨rfl, rfl⟩ | ⟨-, old⟩
      · exact cut_within late (hw i q _ hi hq hm here)
      · exact hw i q c hi hq hm old
    | idle => exact hw i q c hi hq hm hc

/-- The calls made from a course on keep to their manner. -/
theorem within_later (reached : Reachable e w) (start : ∀ q, made q → (Call.start q).Within m)
    (answers : ∀ u, Later e w u → ∀ v : Service, v.engine = e → v.Answers m u.pool.state)
    (late : m.may .timedOut) (later : Later e w u) : u.Within m w.requests.length made := by
  induction later with
  | refl =>
    intro i q c beyond hq
    have := (List.getElem?_eq_some_iff.mp hq).1
    omega
  | @tail u _ before step ih =>
    exact step.within ih (reached.later before).sound.paired start (answers u before) late

theorem resolve_failure {documentType department : String} {day : Calendar.Day} {f : Failure}
    (h : v.resolve documentType department day s = .error f) :
    f = .refused (.noRule documentType department day) ∨ ∃ fault, f = .storage fault := by
  unfold Service.resolve at h
  split at h
  · rename_i failed
    obtain rfl := Except.error.inj h
    cases he : v.engine with
    | memory | table =>
      rw [he] at failed
      cases failed
    | down =>
      rw [he] at failed
      exact .inr ⟨_, (Except.error.inj failed).symm⟩
  · cases h
  · exact .inl (Except.error.inj h).symm

/-- Calls that work with limited rules meet late failures only. -/
theorem answers_of_late {seeks : Request → Prop} {may : Failure → Prop}
    (late : ∀ f : Failure, f.Late → may f)
    (resolved : ∀ q r, seeks q → v.resolve q.documentType q.department q.day s = .ok r → r.Limited)
    (unresolved : ∀ q f, seeks q →
      v.resolve q.documentType q.department q.day s = .error f → may f) :
    v.Answers ⟨seeks, Rule.Limited, may⟩ s where
  resolved := resolved
  unresolved := unresolved
  limited _ h := h
  denied q r limit f _ _ hf := by
    rcases Service.next_failure hf with rfl | ⟨fault, rfl⟩
    · exact late _ (.exhausted _ _)
    · exact late _ (.storage fault)
  duplicate attempts rule := late _ (.duplicate attempts rule)

end Issuing

end DocNumber
