import DocNumber.Proofs.Issuing.Ending
import DocNumber.Proofs.Issuing.Failures
import DocNumber.Proofs.Issuing.Resolution
import DocNumber.Proofs.Issuing.Undisturbed
import DocNumber.Proofs.Request
import DocNumber.Proofs.Rule.Normal

/-!
A rule covers the requests that its draft names. Draft and request are brought into normal form
apart from each other, so blanks around a code do not matter on either side; and as rules stay as
they are, some rule is found for such a request from the creation on, whatever happens later.
-/

namespace DocNumber

/-- The request is for a document type of the draft, as it is written there, for the department of
the draft if that has one, and for a day of its window. -/
structure Draft.Names (d : Draft) (q : Request) : Prop where
  listed : q.documentType ∈ d.types
  documentType : Text.allBlank q.documentType = false
  department : Text.allBlank q.department = false
  own : ∀ code, d.department = some code → Text.allBlank code = false → q.department = code
  day : d.window.contains q.day = true
  issuedBy : 1 ≤ q.issuedBy

variable {d d' : Draft} {q : Request}

theorem Draft.Names.accept (h : d.Names q) : q.accept = .ok q.normalize :=
  Request.accept_ok_iff.mpr ⟨⟨h.documentType, h.department, h.issuedBy⟩, rfl⟩

/-- Whatever the spacing, the rule governs the request. -/
theorem Draft.Names.governs (h : d.Names q) (accepted : d.accept = .ok d') (id : Int) :
    (Rule.ofDraft id d').Governs q.normalize.documentType q.normalize.department
      q.normalize.day := by
  obtain ⟨-, rfl⟩ := Draft.sound_of_accept accepted
  have listed : Text.strip q.documentType ∈ Draft.normalCodes d.types :=
    Draft.mem_normalCodes.mpr ⟨_, h.listed, h.documentType, rfl⟩
  constructor
  · rw [Rule.appliesTo, Bool.and_eq_true]
    exact ⟨List.contains_iff_mem.mpr listed, h.day⟩
  · change Draft.normalDepartment d.department = some (Text.strip q.department) ∨
      Draft.normalDepartment d.department = none
    cases hc : Draft.normalDepartment d.department with
    | none => exact .inr rfl
    | some c =>
      -- Both sides strip the one text that draft and request share.
      obtain ⟨code, given, written, rfl⟩ := Draft.normalDepartment_eq_some.mp hc
      rw [h.own code given written]
      exact .inl rfl

namespace Issuing

open Store

variable {e : Engine} {v : Service} {s t : State} {w u : Course} {r : Rule} {f : Failure}

/-- How calls go on for requests that a rule governs. -/
def Manner.governed (r : Rule) : Manner :=
  ⟨fun q => r.Governs q.documentType q.department q.day, Rule.Limited, Failure.Late⟩

theorem answers_governed (up : v.engine ≠ .down) (catalogue : Catalogue s.rules)
    (stored : r ∈ s.rules) : v.Answers (.governed r) s := by
  apply answers_of_late (fun _ late => late)
  · intro q r' _ hr
    exact (catalogue.usable r' (resolve_found hr).1).limit
  · intro q f governs hf
    obtain ⟨r', hr⟩ := resolve_governed (v := v) (q := q) up ⟨stored, governs⟩
    rw [hr] at hf
    cases hf

/-- Calls that are made once the rule is there, for requests that it governs, fail late only. -/
theorem Reachable.governed (reached : Reachable e w) (up : e ≠ .down)
    (stored : r ∈ w.pool.state.rules) {made : Request → Prop}
    (start : ∀ q, made q → (Call.start q).Within (.governed r)) (later : Later e w u) :
    u.Within (.governed r) w.requests.length made := by
  apply within_later reached start ?_ Failure.Late.timedOut later
  intro t before v engine
  exact answers_governed (engine ▸ up) (reached.later before).sound.valid.catalogue
    ((reached.grown before).subset stored)

/-! ## Without a deadline, over a store that serves -/

/-- How calls go that nothing outside disturbs: they end with a number or are refused. -/
def Manner.served (s : State) : Manner :=
  ⟨fun _ => True, fun r => r ∈ s.rules, fun f => ∃ refusal, f = .refused refusal⟩

theorem answers_served (serving : v.Serving) (valid : Valid v.engine t)
    (same : t.rules = s.rules) : v.Answers (.served s) t where
  resolved q r _ hr := by
    change r ∈ s.rules
    rw [← same]
    exact (resolve_found hr).1
  unresolved q f _ hf := by
    unfold Service.resolve at hf
    rw [Engine.find_eq_pick serving.up] at hf
    split at hf
    · contradiction
    · cases hf
    · exact ⟨_, (Except.error.inj hf).symm⟩
  limited r hr := (valid.catalogue.usable r (same ▸ hr)).limit
  denied q r limit f hr hl hf := ⟨_, (next_error serving valid (same ▸ hr) hl hf).1⟩
  duplicate attempts rule := ⟨_, rfl⟩

theorem start_served (q : Request) : (Call.start q).Within (.served s) := by
  unfold Call.start
  split
  · exact ⟨_, rfl⟩
  · trivial

/-- A call for `q` that has run alone from `s` on, and the state that it has come to. -/
structure Served (v : Service) (s : State) (q : Request) (c : Call) (t : State) : Prop where
  rules : t.rules = s.rules
  valid : Valid v.engine t
  serves : ∃ gs, c.Serves (Found s) gs 0 q
  within : c.Within (.served s)

theorem Served.turn {q : Request} {c : Call} (h : Served v s q c t) (serving : v.Serving) :
    Served v s q (v.turn c t).call (v.turn c t).state := by
  have moves := turn_moves v 0 c t
  obtain ⟨gs, serves⟩ := h.serves
  have resolves (q : Request) (r : Rule)
      (hr : v.resolve q.documentType q.department q.day t = .ok r) : Found s q r :=
    ⟨h.rules ▸ (resolve_found hr).1, (resolve_found hr).2⟩
  obtain ⟨serves', valid⟩ := moves.serves h.valid resolves (fun _ _ hf => h.rules ▸ hf.1) serves
  exact ⟨moves.rules.trans h.rules, valid, ⟨_, serves'⟩,
    moves.within (answers_served serving h.valid h.rules) h.within⟩

/-- Over a store that serves, a call that is not cut off ends with a number or is refused. -/
theorem generate_refused (serving : v.Serving) (enough : v.guarded = true → 1 ≤ v.attempts)
    {cut : Call → Bool} (uncut : ∀ c, cut c = false) (valid : Valid v.engine s) {q : Request}
    (hf : (v.generate cut q s).result = .error f) : ∃ refusal, f = .refused refusal := by
  have off (c : Call) (t : State) (isCut : cut c = true) (_ : Served v s q c t) :
      Served v s q c.cut t := by
    rw [uncut c] at isCut
    cases isCut
  have served := run_induction (fun c t h => Served.turn h serving) off v.bound (.start q) s
    ⟨rfl, valid, ⟨[], start_serves q⟩, start_served q⟩
  obtain ⟨result, finished⟩ :=
    run_finished uncut v.bound (.start q) s (turnsLeft_start_le q enough)
  have within := served.within
  simp only [Service.generate, finished, Call.result] at hf
  rw [finished, hf] at within
  exact within

/-! ## Rules that were created -/

/-- A created rule covers the requests that its draft names: from its creation on, a call for one of
them is not refused for what it asks, for want of a rule or for a template. Where no deadline cuts
it off and storage does not fail, it returns a number, or there is no value or attempt left. -/
theorem created_rule_covers {d : Draft} {q : Request} (reached : Reachable e w)
    (created : (e.create d w.pool.state).result = .ok r)
    (later : Later e (w.inStore (e.create d w.pool.state).state) u) (names : d.Names q) :
    (∀ i f, w.requests.length ≤ i → u.requests[i]? = some q →
      u.pool.calls[i]? = some (.finished (.error f)) → f.Late) ∧
    ∀ (v : Service) (cut : Call → Bool), v.engine = e →
      (∀ f, (v.generate cut q u.pool.state).result = .error f → f.Late) ∧
      (v.Serving → (v.guarded = true → 1 ≤ v.attempts) → (∀ c, cut c = false) →
        (∃ x, (v.generate cut q u.pool.state).result = .ok x) ∨
        (∃ scope limit, (v.generate cut q u.pool.state).result =
          .error (.refused (.exhausted scope limit))) ∨
        ∃ attempts rule, (v.generate cut q u.pool.state).result =
          .error (.refused (.duplicate attempts rule))) := by
  have reached' := reached.step (.create d)
  have start (p : Request) (hp : d.Names p) : (Call.start p).Within (.governed r) := by
    obtain ⟨d', id, accepted, rfl⟩ := Engine.created created
    simp only [Call.start, hp.accept]
    exact hp.governs accepted id
  have within {t : Course} (after : Later e _ t) :
      t.Within (.governed r) w.requests.length d.Names :=
    reached'.governed (Engine.up_of_created created)
      (Engine.created_mem reached.sound.valid.catalogue created) start after
  have sound := (reached'.later later).sound
  have late (v : Service) (cut : Call → Bool) (engine : v.engine = e) (f : Failure)
      (hf : (v.generate cut q u.pool.state).result = .error f) : f.Late := by
    -- A number generated on its own is one more call in a later course.
    obtain ⟨t, c, after, requests, calls, -, result⟩ := generate_later u engine cut q
    have hq : t.requests[u.requests.length]? = some q := by simp [requests]
    have hc : t.pool.calls[u.requests.length]? = some c := by simp [calls, ← sound.paired]
    have made := within (later.trans after) _ q c (requests_later later).length_le hq names hc
    exact may_of_result Failure.Late.timedOut made (result ▸ hf)
  refine ⟨?_, ?_⟩
  · intro i f made hq hc
    exact within later i q _ made hq names hc
  · rintro v cut rfl
    refine ⟨late v cut rfl, ?_⟩
    intro serving enough uncut
    cases hr : (v.generate cut q u.pool.state).result with
    | ok x => exact .inl ⟨x, rfl⟩
    | error f =>
      obtain ⟨refusal, rfl⟩ := generate_refused serving enough uncut sound.valid hr
      rcases (late v cut rfl _ hr).refusal with ⟨scope, limit, rfl⟩ | ⟨attempts, rule, rfl⟩
      · exact .inr (.inl ⟨scope, limit, rfl⟩)
      · exact .inr (.inr ⟨attempts, rule, rfl⟩)

theorem created_rule_covers_padded :
    let d := { invoices with department := some " T ", types := ["", " INV ", "INV"] }
    let q := { order with documentType := " INV ", department := " T " }
    let s := (Engine.memory.create d (twice invoices order nextOrder).pool.state).state
    let t := (Engine.memory.create { invoices with priority := 1 } s).state
    d.Names q ∧ ((∃ x, (plain.generate (fun _ => false) q t).result = .ok x) ∨
      (∃ scope limit, (plain.generate (fun _ => false) q t).result =
        .error (.refused (.exhausted scope limit))) ∨
      ∃ attempts rule, (plain.generate (fun _ => false) q t).result =
        .error (.refused (.duplicate attempts rule))) := by
  intro d q s t
  have names : d.Names q := by
    refine ⟨by decide, by decide +kernel, by decide +kernel, ?_, by decide +kernel, by decide⟩
    intro code given _
    exact Option.some.inj given
  have created : (Engine.memory.create d (twice invoices order nextOrder).pool.state).result =
      .ok (Rule.ofDraft 2 { invoices with department := some "T" }) := by
    decide +kernel
  obtain ⟨-, covers⟩ := created_rule_covers (twice_reached invoices order nextOrder) created
    (.single (.create { invoices with priority := 1 })) names
  exact ⟨names, (covers plain (fun _ => false) rfl).2 ⟨by decide, by decide⟩ (by decide)
    (fun _ => rfl)⟩

end Issuing

end DocNumber
