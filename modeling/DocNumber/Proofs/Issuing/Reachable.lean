import DocNumber.Proofs.Calendar.Order
import DocNumber.Proofs.Issuing.Ledger
import Mathlib.Logic.Relation

/-!
A store in use. Rules are created, seeds inserted and numbers learned of, requests come in, and
their calls take turns or are cut off in any order, each turn under any settings. In every course
that can come about the calls stay sound and the ledger is kept, and rules are only ever added.
-/

namespace DocNumber.Issuing

open Store

/-- A rule of the store that governs what a request is for. -/
def Found (s : State) (q : Request) (r : Rule) : Prop :=
  r ∈ s.rules ∧ r.Governs q.documentType q.department q.day

theorem find_mem {e : Engine} {documentType department : String} {day : Calendar.Day} {s : State}
    {r : Rule} (h : e.find documentType department day s = .ok (some r)) :
    r ∈ s.rules ∧ r.Governs documentType department day := by
  cases e with
  | memory => exact Rule.pick_mem (Except.ok.inj h)
  | table lookup =>
    obtain ⟨kept, governs⟩ := Rule.pick_mem (Except.ok.inj h)
    exact ⟨(List.mem_filter.mp kept).1, governs⟩
  | down => cases h

theorem resolve_found {v : Service} {q : Request} {s : State} {r : Rule}
    (h : v.resolve q.documentType q.department q.day s = .ok r) : Found s q r := by
  unfold Service.resolve at h
  split at h
  · cases h
  · rename_i found
    cases h
    exact find_mem found
  · cases h

namespace Course

def inStore (w : Course) (s : State) : Course :=
  { w with pool := { w.pool with state := s } }

/-- One more request, and the call for it. -/
def request (w : Course) (q : Request) : Course :=
  { w with
    requests := w.requests ++ [q]
    pool := { w.pool with calls := w.pool.calls ++ [.start q] } }

end Course

inductive Step (e : Engine) (w : Course) : Course → Prop
  | create (d : Draft) : Step e w (w.inStore (e.create d w.pool.state).state)
  | insert (ds : List Draft) : Step e w (w.inStore (Seed.insert e ds w.pool.state).state)
  | learn (number : String) : Step e w (w.inStore (w.pool.state.addNumber number))
  | request (q : Request) : Step e w (w.request q)
  | event (v : Service) (engine : v.engine = e) (x : Event) : Step e w (w.event v x)

inductive Reachable (e : Engine) : Course → Prop
  | start (known : List String) : Reachable e (Course.start [] (.fresh known))
  | step {w w' : Course} : Reachable e w → Step e w w' → Reachable e w'

/-- What can come about from a course on. -/
abbrev Later (e : Engine) : Course → Course → Prop :=
  Relation.ReflTransGen (Step e)

theorem create_grown {e : Engine} {s : State} (h : Valid e s) (d : Draft) :
    s.rules <+: (e.create d s).state.rules ∧ (e.create d s).state.counters = s.counters := by
  rcases e.create_cases d h.catalogue with ⟨_, -, same⟩ | ⟨_, -, -, added, -⟩
  · rw [same]
    exact ⟨List.prefix_refl _, rfl⟩
  · rw [added]
    exact ⟨List.prefix_append _ _, rfl⟩

theorem insert_grown {e : Engine} {s : State} (h : Valid e s) (ds : List Draft) :
    s.rules <+: (Seed.insert e ds s).state.rules ∧
      (Seed.insert e ds s).state.counters = s.counters := by
  have grown : Valid e (Seed.insert e ds s).state ∧
      s.rules <+: (Seed.insert e ds s).state.rules ∧
      (Seed.insert e ds s).state.counters = s.counters := by
    refine insertFrom_induction (P := fun t => Valid e t ∧ s.rules <+: t.rules ∧
      t.counters = s.counters) ?_ ds 0 s ⟨h, List.prefix_refl _, rfl⟩
    intro d t ⟨valid, rules, counters⟩
    obtain ⟨rules', counters'⟩ := create_grown valid d
    exact ⟨valid.create d, rules.trans rules', counters'.trans counters⟩
  exact grown.2

theorem event_rules (v : Service) (w : Course) (x : Event) :
    (w.event v x).pool.state.rules = w.pool.state.rules := by
  have advances := Course.event_advances v w x
  generalize w.event v x = next at advances
  cases advances with
  | turn _ _ moves => exact moves.rules
  | cut => rfl
  | idle => rfl

theorem Step.grown {e : Engine} {w u : Course} (h : Step e w u) (valid : Valid e w.pool.state) :
    w.pool.state.rules <+: u.pool.state.rules := by
  cases h with
  | create d => exact (create_grown valid d).1
  | insert ds => exact (insert_grown valid ds).1
  | learn number => exact List.prefix_refl _
  | request q => exact List.prefix_refl _
  | event v engine x => exact (event_rules v w x).symm ▸ List.prefix_refl _

theorem Step.requests {e : Engine} {w u : Course} (h : Step e w u) :
    w.requests <+: u.requests := by
  cases h with
  | request q => exact List.prefix_append _ _
  | create | insert | learn | event => exact List.prefix_refl _

theorem requests_later {e : Engine} {w u : Course} (h : Later e w u) :
    w.requests <+: u.requests := by
  induction h with
  | refl => exact List.prefix_refl _
  | tail _ step ih => exact ih.trans step.requests

theorem run_later {e : Engine} {v : Service} (engine : v.engine = e) (events : List Event)
    (w : Course) : Later e w (Course.run v w events) := by
  induction events generalizing w with
  | nil => exact .refl
  | cons x events ih => exact (ih (w.event v x)).head (.event v engine x)

theorem getElem?_concat_cases {α : Type} {xs : List α} {a b : α} {i : Nat}
    (h : (xs ++ [a])[i]? = some b) : xs[i]? = some b ∨ (i = xs.length ∧ b = a) := by
  rw [List.getElem?_append] at h
  split at h
  · exact .inl h
  · rw [List.getElem?_singleton] at h
    split at h
    · exact .inr ⟨by omega, by simpa using h.symm⟩
    · cases h

namespace Course

variable {e : Engine} {w : Course} {found found' : Request → Rule → Prop}

theorem Sound.inStore (h : w.Sound e found) {t : State} (valid : Valid e t)
    (hf : ∀ q r, found q r → found' q r) : (w.inStore t).Sound e found' where
  valid := valid
  paired := h.paired
  serves i q c hq hc := (h.serves i q c hq hc).mono hf (List.Subset.refl _)

theorem Sound.request (h : w.Sound e found) (q : Request) : (w.request q).Sound e found where
  valid := h.valid
  paired := by simp [Course.request, h.paired]
  serves := by
    intro i p c hp hc
    rcases getElem?_concat_cases hc with old | ⟨last, rfl⟩
    · rcases getElem?_concat_cases hp with old' | ⟨beyond, -⟩
      · exact h.serves i p c old' old
      · have := (List.getElem?_eq_some_iff.mp old).1
        have := h.paired
        omega
    · rcases getElem?_concat_cases hp with old' | ⟨-, rfl⟩
      · have := (List.getElem?_eq_some_iff.mp old').1
        have := h.paired
        omega
      · exact start_serves p

theorem Ledger.inStore {base : Counters} (h : w.Ledger base) {t : State}
    (same : t.counters = w.pool.state.counters) : (w.inStore t).Ledger base where
  grown scope := by simpa only [Course.inStore, same] using h.grown scope
  values scope := by simpa only [Course.inStore, same] using h.values scope
  attempts := h.attempts
  callers := h.callers
  spent := h.spent

theorem Ledger.request {base : Counters} (h : w.Ledger base) (q : Request) :
    (w.request q).Ledger base where
  grown := h.grown
  values := h.values
  attempts := h.attempts
  callers g hg := by
    have := h.callers g hg
    simp only [Course.request, List.length_append, List.length_singleton]
    omega
  spent i c k hc hk g hg same := by
    rcases getElem?_concat_cases hc with old | ⟨last, rfl⟩
    · exact h.spent i c k old hk g hg same
    · have := h.callers g hg
      omega

end Course

namespace Reachable

variable {e : Engine} {w u : Course}

/-- Every call in a course works for its request, with a rule that governs it. -/
theorem sound (h : Reachable e w) : w.Sound e (Found w.pool.state) := by
  induction h with
  | start known => exact .start (.empty e known) []
  | @step w _ _ step ih =>
    cases step with
    | create d =>
      have grown := (create_grown ih.valid d).1
      apply ih.inStore (ih.valid.create d)
      intro q r found
      exact ⟨grown.subset found.1, found.2⟩
    | insert ds =>
      have grown := (insert_grown ih.valid ds).1
      apply ih.inStore (ih.valid.insert ds)
      intro q r found
      exact ⟨grown.subset found.1, found.2⟩
    | learn number =>
      have valid : Valid e (w.pool.state.addNumber number) :=
        ⟨ih.valid.catalogue, ih.valid.held, ih.valid.counted⟩
      apply ih.inStore valid
      intro q r found
      exact found
    | request q => exact ih.request q
    | event v engine x =>
      have same : Found (w.event v x).pool.state = Found w.pool.state := by
        unfold Found
        rw [event_rules]
      rw [same]
      apply ih.event
      · intro q r resolved
        exact resolve_found resolved
      · intro q r found
        exact found.1

/-- All values ever handed out, in every scope from one on. -/
theorem ledger (h : Reachable e w) : w.Ledger [] := by
  induction h with
  | start known => exact Course.Ledger.start [] (.fresh known)
  | step reached step ih =>
    cases step with
    | create d => exact ih.inStore (create_grown reached.sound.valid d).2
    | insert ds => exact ih.inStore (insert_grown reached.sound.valid ds).2
    | learn number => exact ih.inStore rfl
    | request q => exact ih.request q
    | event v engine x => exact ih.event v x

theorem later (h : Reachable e w) (later : Later e w u) : Reachable e u := by
  induction later with
  | refl => exact h
  | tail _ step ih => exact ih.step step

theorem from_start (h : Reachable e w) :
    ∃ known, Later e (Course.start [] (.fresh known)) w := by
  induction h with
  | start known => exact ⟨known, .refl⟩
  | step _ step ih =>
    obtain ⟨known, before⟩ := ih
    exact ⟨known, before.tail step⟩

theorem run (h : Reachable e w) {v : Service} (engine : v.engine = e) (events : List Event) :
    Reachable e (Course.run v w events) :=
  h.later (run_later engine events w)

/-- A rule stays as it is from its creation on, and others come after it. -/
theorem grown (h : Reachable e w) (later : Later e w u) :
    w.pool.state.rules <+: u.pool.state.rules := by
  induction later with
  | refl => exact List.prefix_refl _
  | tail before step ih => exact ih.trans (step.grown (h.later before).sound.valid)

end Reachable

/-! ## Calls that run alone -/

/-- A call that runs alone takes turns in a course in which nothing else happens. -/
theorem run_alone (v : Service) (cut : Call → Bool) (fuel : Nat) {w : Course} {i : Nat} {c : Call}
    (h : w.pool.calls[i]? = some c) : ∃ events,
      (Course.run v w events).pool.calls =
        w.pool.calls.set i (v.run cut fuel c w.pool.state).call ∧
      (Course.run v w events).pool.state = (v.run cut fuel c w.pool.state).state := by
  have inside := (List.getElem?_eq_some_iff.mp h).1
  have still : w.pool.calls.set i c = w.pool.calls := by
    obtain ⟨_, rfl⟩ := List.getElem?_eq_some_iff.mp h
    exact List.set_getElem_self _
  induction fuel generalizing w c with
  | zero => exact ⟨[], still.symm, rfl⟩
  | succ fuel ih =>
    unfold Service.run
    split
    · exact ⟨[], still.symm, rfl⟩
    · split
      · exact ⟨[.cut i], by simp [Course.run, Course.event_cut v h]⟩
      · have next := Course.event_turn v h
        obtain ⟨events, calls, state⟩ := ih (w := w.event v (.turn i))
          (c := (v.turn c w.pool.state).call) (by simp [next, inside]) (by simp [next, inside])
          (by simp [next])
        refine ⟨.turn i :: events, ?_, ?_⟩
        · rw [Course.run_cons, calls]
          simp [next]
        · rw [Course.run_cons, state]
          simp [next]

/-- A number generated on its own is a call that is added to the course and comes to its end. -/
theorem generate_later {e : Engine} (w : Course) {v : Service} (engine : v.engine = e)
    (cut : Call → Bool) (q : Request) : ∃ u c,
      Later e w u ∧ u.requests = w.requests ++ [q] ∧ u.pool.calls = w.pool.calls ++ [c] ∧
      u.pool.state = (v.generate cut q w.pool.state).state ∧
      (v.generate cut q w.pool.state).result = c.result := by
  have last : (w.request q).pool.calls[w.pool.calls.length]? = some (.start q) := by
    simp [Course.request]
  obtain ⟨events, calls, state⟩ := run_alone v cut v.bound last
  refine ⟨_, (v.run cut v.bound (.start q) w.pool.state).call,
    (run_later engine events _).head (.request q), Course.run_requests v events _, ?_, state, rfl⟩
  rw [calls]
  simp [Course.request]

/-! ## A small store -/

/-- Numbered by year and month. -/
def invoices : Draft :=
  { name := "Invoices", template := "\x7bdepartment\x7d-\x7byear4\x7d\x7bmonth2\x7d-\x7bseq\x7d",
    digits := 3, department := none, types := ["INV"],
    window := ⟨⟨2025, 1, 1, by decide⟩, none⟩, priority := 100 }

def order : Request :=
  ⟨"INV", "T", ⟨2025, 3, 14, by decide⟩, 7⟩

def nextOrder : Request :=
  { order with day := ⟨2025, 4, 14, by decide⟩ }

/-- Values at once, and no number compared with others. -/
def plain : Service :=
  ⟨.memory, .prompt, false, 1⟩

/-- Two calls over a store with one rule, the second faster than the first. -/
def twice (d : Draft) (a b : Request) : Course :=
  Course.run plain
    ((((Course.start [] .empty).inStore (Engine.memory.create d .empty).state).request a).request b)
    [.turn 0, .turn 1, .turn 1, .turn 0, .turn 1, .turn 0]

theorem twice_reached (d : Draft) (a b : Request) : Reachable .memory (twice d a b) := by
  have created : Reachable .memory _ := (Reachable.start []).step (.create d)
  exact ((created.step (.request a)).step (.request b)).run (v := plain) rfl _

end DocNumber.Issuing
