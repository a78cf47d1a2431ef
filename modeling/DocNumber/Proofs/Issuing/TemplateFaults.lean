import DocNumber.Proofs.Issuing.Failures
import DocNumber.Proofs.Request

/-!
Templates that cannot be read. A call that is led to a rule with such a template is refused before
a value is asked for, and changes nothing; a template that can be read fails no call, since it
is read the same way before the value and after it. Rules that were created have templates of the
second kind, so over a store that nobody edits no call is refused for its template.
-/

namespace DocNumber

/-- The template of the rule can be read. -/
def Rule.Readable (r : Rule) : Prop :=
  ∃ ts, Template.parse r.template.toList = .ok ts

namespace Issuing

open Store

/-- The request is accepted, and its call gets to the rule before it is cut off. -/
structure Service.Resolves (v : Service) (cut : Call → Bool) (s : State) (q q' : Request)
    (r : Rule) : Prop where
  accepted : q.accept = .ok q'
  found : v.resolve q'.documentType q'.department q'.day s = .ok r
  inTime : cut (.resolving q') = false

variable {v : Service} {cut : Call → Bool} {s : State} {q q' : Request} {r : Rule}

theorem run_of_finished (fuel : Nat) (result : Except Failure Issued) :
    v.run cut fuel (.finished result) s = ⟨.finished result, s, []⟩ := by
  cases fuel <;> rfl

/-- After the turn that resolves the request, the first attempt begins. -/
theorem Service.Resolves.generate (h : v.Resolves cut s q q' r) :
    (v.generate cut q s).result =
        (v.run cut (3 * v.tries + 1) (.attempt q' r 1) s).call.result ∧
      (v.generate cut q s).state = (v.run cut (3 * v.tries + 1) (.attempt q' r 1) s).state := by
  have start : Call.start q = .resolving q' := by
    simp only [Call.start, h.accepted]
  have first : v.run cut v.bound (.start q) s =
      v.run cut (3 * v.tries + 1) (.attempt q' r 1) s := by
    rw [start, Service.bound, Service.run]
    simp [Call.isFinished, h.inTime, Service.turn, h.found]
  simp only [Service.generate, first, and_self]

/-- A rule without a limit ends the call at once. -/
theorem Service.Resolves.unlimited (h : v.Resolves cut s q q' r) {o : Template.Obstacle}
    (ho : r.limit = .error o) :
    (v.generate cut q s).result = .error (.refused (r.unlimited (scopeOf r q') o)) ∧
      (v.generate cut q s).state = s := by
  have attempt : Call.attempt q' r 1 = .refused (r.unlimited (scopeOf r q') o) := by
    simp only [Call.attempt, ho]
  obtain ⟨result, state⟩ := h.generate
  rw [result, state, attempt, Call.refused, run_of_finished]
  exact ⟨rfl, rfl⟩

theorem Service.Resolves.refused (h : v.Resolves cut s q q' r) {fault : Template.Fault}
    (hf : Template.parse r.template.toList = .error fault) :
    (v.generate cut q s).result = .error (.refused (.template r.template fault)) ∧
      (v.generate cut q s).state = s :=
  h.unlimited (o := .fault fault) (by simp only [Rule.limit, Template.sequenceLimit, hf])

/-- How calls go on that have found a rule with a limit. -/
def Manner.placed : Manner :=
  ⟨fun _ => False, Rule.Limited, Failure.Late⟩

theorem Service.Resolves.late (h : v.Resolves cut s q q' r) (limited : r.Limited) {f : Failure}
    (hf : (v.generate cut q s).result = .error f) : f.Late := by
  have answers (t : State) : v.Answers .placed t :=
    answers_of_late (fun _ late => late) (fun _ _ => False.elim) (fun _ _ => False.elim)
  have turn (c : Call) (t : State) (hc : c.Within .placed) : (v.turn c t).call.Within .placed :=
    (turn_moves v 0 c t).within (answers t) hc
  have off (c : Call) (_ : State) (_ : cut c = true) (hc : c.Within .placed) :
      c.cut.Within .placed :=
    cut_within Failure.Late.timedOut hc
  have within := run_induction turn off (3 * v.tries + 1) (.attempt q' r 1) s
    (attempt_within limited limited q' 1)
  rw [h.generate.1] at hf
  exact may_of_result Failure.Late.timedOut within hf

/-- A rule whose template can be read refuses no call for it. -/
theorem Service.Resolves.not_template (h : v.Resolves cut s q q' r) (readable : r.Readable)
    (text : String) (fault : Template.Fault) :
    (v.generate cut q s).result ≠ .error (.refused (.template text fault)) := by
  intro refused
  obtain ⟨ts, hts⟩ := readable
  cases hl : r.limit with
  | ok limit => cases h.late ⟨limit, hl⟩ refused
  | error o =>
    have ends := (h.unlimited hl).1.symm.trans refused
    cases o with
    | fault f =>
      simp only [Rule.limit, Template.sequenceLimit, hts] at hl
      split at hl <;> cases hl
    | negativeWidth w => cases ends

/-! ## Stores that nobody edits -/

/-- How calls go over rules that were created. -/
def Manner.sound : Manner :=
  ⟨fun _ => True, Rule.Limited, fun f => ∀ text fault, f ≠ .refused (.template text fault)⟩

theorem may_of_late {f : Failure} (h : f.Late) : Manner.sound.may f := by
  intro text fault
  cases h <;> simp

theorem start_sound (q : Request) : (Call.start q).Within .sound := by
  unfold Call.start
  split
  · rename_i f hf
    obtain ⟨field, rfl⟩ := Request.field_of_accept hf
    intro text fault
    simp
  · trivial

theorem Reachable.answers {e : Engine} {w : Course} (h : Reachable e w) :
    v.Answers .sound w.pool.state := by
  apply answers_of_late (fun _ => may_of_late)
  · intro q r _ hr
    exact (h.sound.valid.catalogue.usable r (resolve_found hr).1).limit
  · intro q f _ hf
    rcases resolve_failure hf with rfl | ⟨fault, rfl⟩
    · intro text fault
      simp
    · exact may_of_late (.storage fault)

theorem Reachable.within {e : Engine} {w : Course} (h : Reachable e w) :
    w.Within .sound 0 fun _ => True := by
  obtain ⟨known, later⟩ := h.from_start
  exact within_later (.start known) (fun q _ => start_sound q)
    (fun _ before _ _ => ((Reachable.start known).later before).answers)
    (may_of_late .timedOut) later

/-! ## Refusals for a template -/

/-- A call is refused for its template exactly when that cannot be read, and then the store stays
as it was. A template that can be read has a limit unless the rule has a width below zero, and a
rule with a limit prints every value; the templates of created rules all can be read. -/
theorem template_refused_iff :
    (∀ {v : Service} {cut : Call → Bool} {s : State} {q q' : Request} {r : Rule},
      v.Resolves cut s q q' r →
      (∀ text fault, (v.generate cut q s).result = .error (.refused (.template text fault)) ↔
        text = r.template ∧ Template.parse r.template.toList = .error fault) ∧
      (∀ fault, Template.parse r.template.toList = .error fault →
        (v.generate cut q s).state = s) ∧
      (r.Readable → 0 ≤ r.width → ∃ limit, r.limit = .ok limit) ∧
      ∀ limit, r.limit = .ok limit → ∀ n, ∃ x, number r q' n = .ok x) ∧
    (∀ {e : Engine} {d : Draft} {s : State} {r : Rule},
      (e.create d s).result = .ok r → r.Readable) ∧
    ∀ {e : Engine} {w : Course}, Reachable e w →
      ∀ c ∈ w.pool.calls, ∀ text fault, c ≠ .refused (.template text fault) := by
  refine ⟨?_, ?_, ?_⟩
  · intro v cut s q q' r h
    refine ⟨?_, fun fault hf => (h.refused hf).2, ?_, fun limit hl => number_of_limit hl q'⟩
    · intro text fault
      constructor
      · intro refused
        cases hp : Template.parse r.template.toList with
        | ok ts => exact absurd refused (h.not_template ⟨ts, hp⟩ text fault)
        | error fault' =>
          rw [(h.refused hp).1] at refused
          cases refused
          exact ⟨rfl, rfl⟩
      · rintro ⟨rfl, hf⟩
        exact (h.refused hf).1
    · rintro ⟨ts, hts⟩ nonneg
      exact ⟨_, Template.sequenceLimit_of_parse hts (Template.narrowest_nonneg nonneg)⟩
  · intro e d s r created
    obtain ⟨d', id, accepted, rfl⟩ := Store.Engine.created created
    exact (Draft.usable_of_accept accepted id).template
  · intro e w reached c hc text fault same
    obtain ⟨i, hi⟩ := List.getElem?_of_mem hc
    obtain ⟨q, hq⟩ := reached.sound.made hi
    have within := reached.within i q c (Nat.zero_le i) hq trivial hi
    rw [same] at within
    exact within text fault rfl

theorem template_refused_iff_unclosed :
    let s := ((Engine.memory.create invoices .empty).state).edit 1 [.template "\x7bseq"]
    let out := plain.generate (fun _ => false) order s
    out.result = .error (.refused (.template "\x7bseq" (.unclosed 0))) ∧ out.state = s ∧
      (Rule.ofDraft 1 invoices).Readable ∧
      ∀ c ∈ (twice invoices order nextOrder).pool.calls, ∀ text fault,
        c ≠ .refused (.template text fault) := by
  intro s out
  obtain ⟨refused, created, kept⟩ := template_refused_iff
  have resolves : plain.Resolves (fun _ => false) s order order
      { Rule.ofDraft 1 invoices with template := "\x7bseq" } :=
    ⟨by decide +kernel, by decide +kernel, rfl⟩
  have unread : Template.parse "\x7bseq".toList = .error (.unclosed 0) := by decide +kernel
  obtain ⟨iff, unchanged, -⟩ := refused resolves
  refine ⟨(iff _ _).mpr ⟨rfl, unread⟩, unchanged _ unread, ?_, kept (twice_reached _ _ _)⟩
  exact created (e := .memory) (d := invoices) (s := .empty) (by decide +kernel)

end Issuing

end DocNumber
