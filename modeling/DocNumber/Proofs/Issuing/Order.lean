import DocNumber.Proofs.Issuing.Uniqueness
import DocNumber.Proofs.Template.Order

/-!
Numbers in the order of issue. The values of a scope are handed out one after the other, so the
record lists them in increasing order (`Ledger.ordered`); and what a rule prints for them comes in
that order as text as well, for one document type.
-/

namespace DocNumber.Issuing

open Store Template

theorem pairwise_upTo (a b : Int) : (upTo a b).Pairwise (· < ·) := by
  rw [upTo, List.pairwise_map]
  apply List.pairwise_lt_range.imp
  intro k l less
  omega

theorem mem_upTo {a b n : Int} : n ∈ upTo a b ↔ a < n ∧ n ≤ b := by
  simp only [upTo, List.mem_map, List.mem_range]
  constructor
  · rintro ⟨k, hk, rfl⟩
    omega
  · rintro ⟨low, high⟩
    exact ⟨(n - a - 1).toNat, by omega, by omega⟩

namespace Course

/-- The rule prints `x` for the value that was granted, to a call whose request has the normal
form `q`. -/
structure Issues (w : Course) (g : Grant) (q : Request) (r : Rule) (x : Issued) : Prop where
  request : ∃ p, w.requests[g.call]? = some p ∧ p.accept = .ok q
  rule : r ∈ w.pool.state.rules
  scope : g.scope = scopeOf r q
  printed : number r q g.value = .ok x

namespace Ledger

variable {base : Counters} {w : Course}

/-- Of two values of one scope the greater was handed out later. -/
theorem ordered (h : w.Ledger base) :
    w.grants.Pairwise fun g g' => g.scope = g'.scope → g.value < g'.value := by
  apply List.pairwise_iff_forall_sublist.mpr
  intro g g' both same
  have values : (valuesIn g.scope w.grants).Pairwise (· < ·) := h.values g.scope ▸ pairwise_upTo _ _
  rw [valuesIn, List.pairwise_map, List.pairwise_filter] at values
  exact List.pairwise_iff_forall_sublist.mp values both (by simp) (by simp [same])

theorem value_bounds (h : w.Ledger base) {g : Grant} (hg : g ∈ w.grants) :
    base.last g.scope < g.value ∧ g.value ≤ w.pool.state.counters.last g.scope := by
  rw [← mem_upTo, ← h.values g.scope]
  exact mem_valuesIn.mpr ⟨g, hg, rfl, rfl⟩

end Ledger

end Course

variable {e : Engine} {w u : Course} {g g' : Grant} {q q' : Request} {r : Rule} {x y : Issued}
  {i j : Nat}

/-- In one scope, for one document type, only the value tells two numbers apart. -/
theorem context_eq_withSequence (scope : scopeOf r q = scopeOf r q')
    (documentType : q.documentType = q'.documentType) (m n : Int) :
    context r q' n = (context r q m).withSequence n := by
  have year : (q.day.year : Int) = q'.day.year := congrArg Scope.year scope
  have month : (q.day.month : Int) = q'.day.month := congrArg Scope.month scope
  have department : q.department = q'.department := congrArg Scope.department scope
  simp only [context, Context.withSequence, year, month, department, documentType]

theorem number_lt {m n : Int} (usable : r.Usable) {ts : List Token}
    (parsed : parse r.template.toList = .ok ts) (printed : Prints ts .sequence)
    (scope : scopeOf r q = scopeOf r q') (documentType : q.documentType = q'.documentType)
    (nonneg : 0 ≤ m) (less : m < n) (le : n ≤ limitOf r.width ts)
    (hx : number r q m = .ok x) (hy : number r q' n = .ok y) : x.number < y.number := by
  rw [number_of_parse parsed (usable.wide ts), Except.ok.injEq] at hx hy
  rw [← hx, ← hy, String.lt_iff, String.toList_ofList, String.toList_ofList,
    context_eq_withSequence rfl rfl m m, context_eq_withSequence scope documentType m n]
  exact text_lt_of_le_limit (parse_proper parsed) printed usable.width.1 nonneg less le

theorem Step.grants (h : Step e w u) : w.grants <+: u.grants := by
  cases h with
  | create | insert | learn | request => exact List.prefix_refl _
  | event v engine x => exact List.prefix_append _ _

theorem grants_later (h : Later e w u) : w.grants <+: u.grants := by
  induction h with
  | refl => exact List.prefix_refl _
  | tail _ step ih => exact ih.trans step.grants

namespace Reachable

/-- Numbers printed for two values of one scope come in the order in which these were granted. -/
theorem number_lt (h : Reachable e w) (order : [g, g'].Sublist w.grants)
    (hx : w.Issues g q r x) (hy : w.Issues g' q' r y) (same : g.scope = g'.scope)
    (documentType : q.documentType = q'.documentType) {ts : List Token}
    (parsed : parse r.template.toList = .ok ts) (printed : Prints ts .sequence) :
    x.number < y.number := by
  have usable := h.sound.valid.catalogue.usable r hx.rule
  have less := List.pairwise_iff_forall_sublist.mp h.ledger.ordered order same
  obtain ⟨pos, -⟩ := h.ledger.value_bounds (order.subset (show g ∈ [g, g'] by simp))
  obtain ⟨-, counted⟩ := h.ledger.value_bounds (order.subset (show g' ∈ [g, g'] by simp))
  have limit := h.sound.valid.last_le hy.rule (congrArg Scope.rule hy.scope).symm
    (usable.limit_of_parse parsed)
  have scope : scopeOf r q = scopeOf r q' := hx.scope.symm.trans (same.trans hy.scope)
  apply Issuing.number_lt usable parsed printed scope documentType _ less _ hx.printed hy.printed
  · exact Int.le_of_lt pos
  · exact Int.le_trans counted limit

/-- What a call returned was printed for a value granted to it. -/
theorem issues_of_returned (h : Reachable e w) (hx : w.Returned i q r x) :
    ∃ g ∈ w.grants, g.call = i ∧ w.Issues g q r x := by
  have source := h.source hx
  obtain ⟨k, granted⟩ := source.granted
  exact ⟨_, granted, rfl, hx.request, hx.rule.1, rfl, source.printed⟩

theorem issues_later (h : Reachable e w) (later : Later e w u) (hx : w.Issues g q r x) :
    u.Issues g q r x := by
  obtain ⟨p, hp, accepted⟩ := hx.request
  obtain ⟨more, same⟩ := requests_later later
  have inside := (List.getElem?_eq_some_iff.mp hp).1
  have kept : u.requests[g.call]? = some p := by
    rw [← same, List.getElem?_append_left inside, hp]
  exact ⟨⟨p, kept, accepted⟩, (h.grown later).subset hx.rule, hx.scope, hx.printed⟩

/-- What was granted to earlier calls stands before what is granted to one that was made later. -/
theorem granted_before (h : Reachable e w) (later : Later e w u) (hg : g ∈ w.grants)
    (hg' : g' ∈ u.grants) (made : w.requests.length ≤ g'.call) : [g, g'].Sublist u.grants := by
  obtain ⟨new, hnew⟩ := grants_later later
  rw [← hnew] at hg' ⊢
  have fresh : g' ∈ new := by
    rcases List.mem_append.mp hg' with old | fresh
    · have := h.ledger.callers g' old
      have := h.sound.paired
      omega
    · exact fresh
  exact List.Sublist.append (List.singleton_sublist.mpr hg) (List.singleton_sublist.mpr fresh)

end Reachable

/-- Up to the limit the texts of a template come in the order of the sequence. So the numbers that a
rule prints in a scope for one document type come in the order in which the values were handed out,
and what one call returned comes before what a call returns that was made afterwards. -/
theorem numbers_in_order :
    (∀ {cs : List Char} {ts : List Token}, parse cs = .ok ts → Prints ts .sequence →
      ∀ ctx : Context, 1 ≤ ctx.defaultWidth →
      ∃ limit, sequenceLimit cs ctx.defaultWidth = .ok limit ∧
        ∀ (m n : Int) (x y : List Char), 0 ≤ m → m < n → n ≤ limit →
          render cs (ctx.withSequence m) = .ok x → render cs (ctx.withSequence n) = .ok y →
          x < y) ∧
    (∀ {e : Engine} {w : Course}, Reachable e w → ∀ {r : Rule} {ts : List Token},
      parse r.template.toList = .ok ts → Prints ts .sequence →
      w.grants.Pairwise fun g g' => g.scope = g'.scope → ∀ q q' x y, w.Issues g q r x →
        w.Issues g' q' r y → q.documentType = q'.documentType → x.number < y.number) ∧
    ∀ {e : Engine} {w u : Course}, Reachable e w → Later e w u →
      ∀ {i j : Nat} {q q' : Request} {r : Rule} {x y : Issued} {ts : List Token},
      parse r.template.toList = .ok ts → Prints ts .sequence →
      w.Returned i q r x → u.Returned j q' r y → w.requests.length ≤ j →
      scopeOf r q = scopeOf r q' → q.documentType = q'.documentType → x.number < y.number := by
  refine ⟨?_, ?_, ?_⟩
  · intro cs ts parsed printed ctx pos
    have nonneg : 0 ≤ ctx.defaultWidth := Int.le_trans Int.one_nonneg pos
    refine ⟨_, sequenceLimit_of_parse parsed (narrowest_nonneg nonneg), ?_⟩
    intro m n x y nonneg less le hx hy
    simp only [render, parsed] at hx hy
    rw [← renderTokens_ok hx, ← renderTokens_ok hy]
    exact text_lt_of_le_limit (parse_proper parsed) printed pos nonneg less le
  · intro e w reached r ts parsed printed
    apply List.pairwise_iff_forall_sublist.mpr
    intro g g' order same q q' x y hx hy documentType
    exact reached.number_lt order hx hy same documentType parsed printed
  · intro e w u reached later i j q q' r x y ts parsed printed hx hy made scope documentType
    obtain ⟨g, hg, -, issues⟩ := reached.issues_of_returned hx
    obtain ⟨g', hg', rfl, issues'⟩ := (reached.later later).issues_of_returned hy
    have order := reached.granted_before later hg hg' made
    have same : g.scope = g'.scope := issues.scope.trans (scope.trans issues'.scope.symm)
    exact (reached.later later).number_lt order (reached.issues_later later issues) issues' same
      documentType parsed printed

/-- Nine comes before ten in each of two places. Of two orders of a month the second is handed the
first value; an order made after both have ended gets the third. -/
theorem numbers_in_order_invoices :
    let cs := "\x7bseq\x7d/\x7bseq:2\x7d".toList
    let w := twice invoices order order
    let u := Course.run plain (w.request order) (List.replicate 3 (.turn 2))
    (render cs ⟨2025, 3, 9, 3, none, none⟩ = .ok "009/09".toList ∧
      render cs ⟨2025, 3, 10, 3, none, none⟩ = .ok "010/10".toList ∧
      "009/09".toList < "010/10".toList) ∧
    u.pool.calls = [.finished (.ok ⟨"T-202503-002", 1, 2, invoices.template⟩),
      .finished (.ok ⟨"T-202503-001", 1, 1, invoices.template⟩),
      .finished (.ok ⟨"T-202503-003", 1, 3, invoices.template⟩)] ∧
    "T-202503-001" < "T-202503-002" ∧ "T-202503-002" < "T-202503-003" := by
  intro cs w u
  obtain ⟨texts, granted, afterwards⟩ := numbers_in_order
  have read : parse cs =
      .ok [.place .sequence none, .literal ['/'], .place .sequence (some 2)] := by
    decide +kernel
  obtain ⟨limit, hl, sorted⟩ := texts read ⟨none, by simp⟩ ⟨2025, 3, 0, 3, none, none⟩
    (by decide)
  obtain rfl : 99 = limit := Except.ok.inj ((by decide +kernel : _ = Except.ok 99).symm.trans hl)
  have nine : render cs ⟨2025, 3, 9, 3, none, none⟩ = .ok "009/09".toList := by decide +kernel
  have ten : render cs ⟨2025, 3, 10, 3, none, none⟩ = .ok "010/10".toList := by decide +kernel
  have reached := twice_reached invoices order order
  have later : Later .memory w u := (run_later (v := plain) rfl _ _).head (.request order)
  have grants : w.grants = [⟨1, 1, ⟨1, 2025, 3, "T"⟩, 1⟩, ⟨0, 1, ⟨1, 2025, 3, "T"⟩, 2⟩] := by
    decide +kernel
  have calls : u.pool.calls = [.finished (.ok ⟨"T-202503-002", 1, 2, invoices.template⟩),
      .finished (.ok ⟨"T-202503-001", 1, 1, invoices.template⟩),
      .finished (.ok ⟨"T-202503-003", 1, 3, invoices.template⟩)] := by
    with_unfolding_all rfl
  have ended : w.pool.calls[0]? =
      some (.finished (.ok ⟨"T-202503-002", 1, 2, invoices.template⟩)) := by
    with_unfolding_all rfl
  have parsed : parse (Rule.ofDraft 1 invoices).template.toList = .ok [.place .department none,
      .literal ['-'], .place .year4 none, .place .month2 none, .literal ['-'],
      .place .sequence none] := by
    decide +kernel
  have accepted : order.accept = .ok order := by decide +kernel
  have stored : Rule.ofDraft 1 invoices ∈ w.pool.state.rules := by decide +kernel
  have stored' : Rule.ofDraft 1 invoices ∈ u.pool.state.rules := by decide +kernel
  refine ⟨⟨nine, ten, sorted 9 10 _ _ (by decide) (by decide) (by decide) nine ten⟩, calls, ?_, ?_⟩
  · have pairs := granted reached parsed ⟨none, by simp⟩
    rw [grants] at pairs
    have first : w.Issues ⟨1, 1, ⟨1, 2025, 3, "T"⟩, 1⟩ order (Rule.ofDraft 1 invoices)
        ⟨"T-202503-001", 1, 1, invoices.template⟩ :=
      ⟨⟨order, rfl, accepted⟩, stored, rfl, by decide +kernel⟩
    have second : w.Issues ⟨0, 1, ⟨1, 2025, 3, "T"⟩, 2⟩ order (Rule.ofDraft 1 invoices)
        ⟨"T-202503-002", 1, 2, invoices.template⟩ :=
      ⟨⟨order, rfl, accepted⟩, stored, rfl, by decide +kernel⟩
    exact (List.pairwise_cons.mp pairs).1 _ List.mem_cons_self rfl _ _ _ _ first second rfl
  · exact afterwards reached later (i := 0) (j := 2) parsed ⟨none, by simp⟩
      ⟨ended, ⟨order, rfl, accepted⟩, stored, rfl⟩
      ⟨congrArg (·[2]?) calls, ⟨order, rfl, accepted⟩, stored', rfl⟩ (by decide) rfl rfl

end DocNumber.Issuing
