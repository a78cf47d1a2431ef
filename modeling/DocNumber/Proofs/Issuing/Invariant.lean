import DocNumber.Proofs.Issuing.Reachable
import DocNumber.Proofs.Request
import DocNumber.Proofs.Rule.Normal

/-!
What is true of a store at all times, whatever succeeds or fails in it. Its rules are in normal
form, numbered in order of creation, and never change. Every counter belongs to a rule of the store,
in a scope that requests for the rule lead to, with a value that the rule can hand out (`Counted`).
-/

namespace DocNumber.Issuing

open Store

/-- The last value of a scope, as calls over these rules can have left it. -/
structure Counted (rules : List Rule) (scope : Scope) (n : Int) : Prop where
  rule : ∃ r ∈ rules, r.id = scope.rule ∧
    (∀ code, r.department = some code → scope.department = code) ∧
    ∃ limit, r.limit = .ok limit ∧ 1 ≤ n ∧ n ≤ limit ∧ limit ≤ 10 ^ 18 - 1
  year : 1 ≤ scope.year ∧ scope.year ≤ 9999
  month : 1 ≤ scope.month ∧ scope.month ≤ 12
  department : Text.Trimmed scope.department

variable {e : Engine} {s t : State} {r : Rule} {q q' : Request} {n : Int}

theorem Counted.mono {rules rules' : List Rule} {scope : Scope} (h : Counted rules scope n)
    (grown : rules <+: rules') : Counted rules' scope n := by
  obtain ⟨⟨r, hr, rest⟩, year, month, department⟩ := h
  exact ⟨⟨r, grown.subset hr, rest⟩, year, month, department⟩

theorem Counted.fits {rules : List Rule} {scope : Scope} (h : Counted rules scope n) :
    Table.fits n = true := by
  obtain ⟨r, -, -, -, limit, -, pos, le, bound⟩ := h.rule
  have word : 10 ^ 18 ≤ Decimal.wordBound := by decide
  simp only [Table.fits, Bool.and_eq_true, decide_eq_true_eq]
  omega

/-- The scope of a request that was accepted, for a rule that was found for it. -/
theorem counted_scopeOf (valid : Valid e s) (accepted : q.accept = .ok q') (found : Found s q' r)
    (inLimit : InLimit r n) : Counted s.rules (scopeOf r q') n := by
  obtain ⟨stored, -, own⟩ := found
  obtain ⟨year_pos, year_le, month_pos, month_le, -, -⟩ := q'.day.valid
  obtain ⟨pos, limit, hl, le⟩ := inLimit
  have bound : limit < 10 ^ 18 := ((valid.catalogue.usable r stored).limit_bounds hl).2
  refine ⟨⟨r, stored, rfl, ?_, limit, hl, pos, le, by omega⟩, ?_, ?_,
    (Request.trimmed_of_accept accepted).2⟩
  · intro code hcode
    rcases own with department | generic
    · exact Option.some.inj (department.symm.trans hcode)
    · rw [generic] at hcode
      cases hcode
  · simp only [scopeOf]
    omega
  · simp only [scopeOf]
    omega

/-- Of all that a turn of a call can do, only a value handed out touches a counter. -/
theorem Moves.counted {v : Service} {i : Nat} {c c' : Call} {gs gs' : List Grant}
    (h : Moves v i s c c' t gs') (valid : Valid e s) (hc : c.Serves (Found s) gs i q)
    (counted : ∀ x ∈ s.counters, Counted s.rules x.1 x.2) :
    ∀ x ∈ t.counters, Counted t.rules x.1 x.2 := by
  have serves := (h.serves valid (fun _ _ => resolve_found) (fun _ _ found => found.1) hc).1
  cases h with
  | granted =>
    obtain ⟨accepted, holds⟩ := serves
    have next := counted_scopeOf valid accepted holds.found holds.inLimit
    intro x hx
    rcases mem_put hx with rfl | old
    · exact next
    · exact counted x old
  | unresolved | resolved | denied | unprintable | printed | issued | retried | duplicate | fresh
  | ended => exact counted

namespace Reachable

variable {w : Course}

theorem normal (h : Reachable e w) : ∀ r ∈ w.pool.state.rules, r.Normal := by
  have create (d : Draft) (s : State) (hs : Valid e s ∧ ∀ r ∈ s.rules, r.Normal) :
      Valid e (e.create d s).state ∧ ∀ r ∈ (e.create d s).state.rules, r.Normal := by
    refine ⟨hs.1.create d, ?_⟩
    rcases e.create_cases d hs.1.catalogue with ⟨_, -, same⟩ | ⟨d', accepted, -, added, -⟩
    · rw [same]
      exact hs.2
    · rw [added]
      intro r hr
      rcases List.mem_append.mp hr with old | new
      · exact hs.2 r old
      · obtain rfl := List.mem_singleton.mp new
        exact Draft.normal_of_accept accepted _
  induction h with
  | start => simp [Course.start, Pool.start]
  | step reached step ih =>
    have both := And.intro reached.sound.valid ih
    cases step with
    | create d => exact (create d _ both).2
    | insert ds => exact (insertFrom_induction create ds 0 _ both).2
    | learn | request => exact ih
    | event v engine x =>
      rw [event_rules]
      exact ih

theorem counted (h : Reachable e w) :
    ∀ x ∈ w.pool.state.counters, Counted w.pool.state.rules x.1 x.2 := by
  have keep {s t : State} (old : ∀ x ∈ s.counters, Counted s.rules x.1 x.2)
      (grown : s.rules <+: t.rules ∧ t.counters = s.counters) :
      ∀ x ∈ t.counters, Counted t.rules x.1 x.2 := by
    intro x hx
    exact (old x (grown.2 ▸ hx)).mono grown.1
  induction h with
  | start => simp [Course.start, Pool.start]
  | @step w _ reached step ih =>
    have sound := reached.sound
    cases step with
    | create d => exact keep ih (create_grown sound.valid d)
    | insert ds => exact keep ih (insert_grown sound.valid ds)
    | learn | request => exact ih
    | event v engine x =>
      have advances := Course.event_advances v w x
      generalize w.event v x = next at advances
      cases advances with
      | @turn i c c' t gs _ here moves =>
        obtain ⟨q, hq⟩ := sound.made here
        exact moves.counted sound.valid (sound.serves i q c hq here) ih
      | cut | idle => exact ih

end Reachable

/-- The invariant of a store, in memory or in the table. -/
theorem store_invariant {w : Course} (reached : Reachable e w) :
    w.pool.state.rules.map Rule.id =
      (List.range w.pool.state.rules.length).map (fun i : Nat => (i : Int) + 1) ∧
    (∀ r ∈ w.pool.state.rules, r.Normal) ∧
    (∀ u, Later e w u → w.pool.state.rules <+: u.pool.state.rules) ∧
    ∀ x ∈ w.pool.state.counters,
      Counted w.pool.state.rules x.1 x.2 ∧ Table.fits x.2 = true := by
  refine ⟨?_, reached.normal, fun u later => reached.grown later, ?_⟩
  · apply List.ext_getElem
    · simp
    · intro i hi _
      have inside : i < w.pool.state.rules.length := by simpa using hi
      simpa using reached.sound.valid.catalogue.numbered i _ (List.getElem?_eq_getElem inside)
  · intro x hx
    exact ⟨reached.counted x hx, (reached.counted x hx).fits⟩

theorem store_invariant_invoices :
    let w := twice invoices order nextOrder
    let u := w.inStore (Engine.memory.create { invoices with digits := 4 } w.pool.state).state
    (Rule.ofDraft 1 invoices).Normal ∧ w.pool.state.rules <+: u.pool.state.rules ∧
      Counted w.pool.state.rules ⟨1, 2025, 4, "T"⟩ 1 := by
  intro w u
  obtain ⟨-, normal, unchanged, counted⟩ :=
    store_invariant (twice_reached invoices order nextOrder)
  refine ⟨normal _ ?_, unchanged u (.single (.create _)),
    (counted ⟨⟨1, 2025, 4, "T"⟩, 1⟩ ?_).1⟩
  · decide +kernel
  · decide +kernel

end DocNumber.Issuing
