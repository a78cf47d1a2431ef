import DocNumber.Proofs.Issuing.Numbers
import DocNumber.Proofs.Issuing.Reachable

/-!
How far numbers are unique. Values of one scope never repeat, but a template chooses what of a
scope it prints. A rule that prints all of it never repeats a number (`keyed_number_ne`); in
general two calls get the same number exactly when they agree on all that is printed
(`number_eq_iff_printed`).
-/

namespace DocNumber.Issuing

open Store Template

/-- Call `i` returned `x`: a number of the rule `r`, for a request with the normal form `q`. -/
structure Course.Returned (w : Course) (i : Nat) (q : Request) (r : Rule) (x : Issued) : Prop where
  call : w.pool.calls[i]? = some (.finished (.ok x))
  request : ∃ p, w.requests[i]? = some p ∧ p.accept = .ok q
  rule : r ∈ w.pool.state.rules ∧ x.rule = r.id

variable {e : Engine} {w : Course} {i j : Nat} {q q' : Request} {r r' : Rule} {x y : Issued}

/-- Whatever is returned is a number of some rule, for some request. -/
theorem Reachable.returned (h : Reachable e w)
    (hx : w.pool.calls[i]? = some (.finished (.ok x))) : ∃ q r, w.Returned i q r x := by
  have inside := (List.getElem?_eq_some_iff.mp hx).1
  have hp := List.getElem?_eq_getElem (h.sound.paired ▸ inside)
  obtain ⟨q, r, _, accepted, holds, hn⟩ := h.sound.serves i _ _ hp hx
  exact ⟨q, r, hx, ⟨_, hp, accepted⟩, holds.found.1, (number_parts hn).1⟩

/-- Where a number comes from: its value was handed out in the scope of the rule and the request,
and the rule printed it. -/
structure Course.Source (w : Course) (i : Nat) (q : Request) (r : Rule) (x : Issued) : Prop where
  governs : r.Governs q.documentType q.department q.day
  usable : r.Usable
  inLimit : InLimit r x.sequence
  granted : ∃ k, ⟨i, k, scopeOf r q, x.sequence⟩ ∈ w.grants
  printed : number r q x.sequence = .ok x

theorem Reachable.source (h : Reachable e w) (hx : w.Returned i q r x) : w.Source i q r x := by
  obtain ⟨p, hp, accepted⟩ := hx.request
  obtain ⟨q', a, k, accepted', holds, hn⟩ := h.sound.serves i p _ hp hx.call
  obtain rfl : q' = q := Except.ok.inj (accepted'.symm.trans accepted)
  have catalogue := h.sound.valid.catalogue
  obtain rfl : a = r := catalogue.eq_of_id holds.found.1 hx.rule.1
    ((number_parts hn).1.symm.trans hx.rule.2)
  exact ⟨holds.found.2, catalogue.usable a hx.rule.1, holds.inLimit, ⟨k, holds.granted⟩, hn⟩

/-- In one scope, two calls return different values. -/
theorem Reachable.sequence_ne (h : Reachable e w) (hx : w.Source i q r x)
    (hy : w.Source j q' r' y) (other : i ≠ j) (same : scopeOf r q = scopeOf r' q') :
    x.sequence ≠ y.sequence := by
  intro value
  obtain ⟨k, grant⟩ := hx.granted
  obtain ⟨k', grant'⟩ := hy.granted
  exact other (congrArg Grant.call (h.ledger.grant_eq grant grant' same value))

theorem Course.Source.number_eq_iff (hx : w.Source i q r x) (hy : w.Source j q' r' y)
    {ts : List Token} (parsed : parse r.template.toList = .ok ts)
    (template : r'.template = r.template) (width : r'.width = r.width)
    (one : OneCodeDiffers ts (context r q x.sequence) (context r' q' y.sequence)) :
    x.number = y.number ↔ ∀ label, Prints ts label →
      (context r q x.sequence).SameAt (context r' q' y.sequence) label :=
  Issuing.number_eq_iff hx.usable hy.usable template width parsed hx.printed hy.printed
    hx.inLimit hy.inLimit one

/-! ## Rules that print their whole scope -/

/-- The template prints the value, the year and the month; the department is that of the rule, or
it is printed and no other code is. -/
structure Keyed (r : Rule) (ts : List Token) : Prop where
  sequence : Prints ts .sequence
  year : Prints ts .year4
  month : Prints ts .month2
  department : r.department.isSome = true ∨ (Prints ts .department ∧ ¬Prints ts .documentType)

/-- Equal numbers of such a rule come from one scope and one value. -/
theorem Keyed.scope_eq {ts : List Token} (keyed : Keyed r ts)
    (parsed : parse r.template.toList = .ok ts) (hx : w.Source i q r x) (hy : w.Source j q' r y)
    (same : x.number = y.number) :
    scopeOf r q = scopeOf r q' ∧ x.sequence = y.sequence := by
  have own (isSome : r.department.isSome = true) : q.department = q'.department := by
    obtain ⟨code, hcode⟩ := Option.isSome_iff_exists.mp isSome
    have of_governs {p : Request} (h : r.Governs p.documentType p.department p.day) :
        code = p.department := by simpa [hcode] using h.2
    exact (of_governs hx.governs).symm.trans (of_governs hy.governs)
  have one : OneCodeDiffers ts (context r q x.sequence) (context r q' y.sequence) := by
    rcases keyed.department with isSome | ⟨-, unprinted⟩
    · exact .inl fun _ => congrArg some (own isSome)
    · exact .inr fun printed => absurd printed unprinted
  have agree := (hx.number_eq_iff hy parsed rfl rfl one).mp same
  have year : (q.day.year : Int) = q'.day.year := agree .year4 keyed.year
  have month : (q.day.month : Int) = q'.day.month := agree .month2 keyed.month
  have department : q.department = q'.department := by
    rcases keyed.department with isSome | ⟨printed, -⟩
    · exact own isSome
    · exact Option.some.inj (agree .department printed)
  refine ⟨?_, agree .sequence keyed.sequence⟩
  simp only [scopeOf, year, month, department]

/-- A rule that prints its whole scope never gives two calls the same number. -/
theorem keyed_number_ne (reached : Reachable e w) (hr : r ∈ w.pool.state.rules)
    {ts : List Token} (parsed : parse r.template.toList = .ok ts) (keyed : Keyed r ts)
    (other : i ≠ j) (hx : w.pool.calls[i]? = some (.finished (.ok x)))
    (hy : w.pool.calls[j]? = some (.finished (.ok y))) (rx : x.rule = r.id) (ry : y.rule = r.id) :
    x.number ≠ y.number := by
  have source {i x} (hx : w.pool.calls[i]? = some (.finished (.ok x))) (rx : x.rule = r.id) :
      ∃ q, w.Source i q r x := by
    obtain ⟨q, a, returned⟩ := reached.returned hx
    exact ⟨q, reached.source ⟨returned.call, returned.request, hr, rx⟩⟩
  obtain ⟨q, hx⟩ := source hx rx
  obtain ⟨q', hy⟩ := source hy ry
  intro same
  obtain ⟨scope, value⟩ := keyed.scope_eq parsed hx hy same
  exact reached.sequence_ne hx hy other scope value

theorem keyed_number_ne_invoices : ∃ x y,
    (twice invoices order nextOrder).pool.calls = [.finished (.ok x), .finished (.ok y)] ∧
      x.number ≠ y.number := by
  have calls : (twice invoices order nextOrder).pool.calls =
      [.finished (.ok ⟨"T-202503-001", 1, 1, invoices.template⟩),
        .finished (.ok ⟨"T-202504-001", 1, 1, invoices.template⟩)] := by
    with_unfolding_all rfl
  have keyed : Keyed (Rule.ofDraft 1 invoices) [.place .department none, .literal ['-'],
      .place .year4 none, .place .month2 none, .literal ['-'], .place .sequence none] :=
    ⟨⟨none, by simp⟩, ⟨none, by simp⟩, ⟨none, by simp⟩,
      .inr ⟨⟨none, by simp⟩, fun ⟨_, printed⟩ => by simp at printed⟩⟩
  refine ⟨_, _, calls, ?_⟩
  exact keyed_number_ne (i := 0) (j := 1) (twice_reached invoices order nextOrder)
    (by decide +kernel) (by decide +kernel) keyed (by decide) (congrArg (·[0]?) calls)
    (congrArg (·[1]?) calls) rfl rfl

/-! ## Any rules -/

/-- Within a scope numbers differ if the value is printed. Numbers from one template and width, of
whose printed codes no more than one differs, are equal exactly when all that is printed is. -/
theorem number_eq_iff_printed (reached : Reachable e w) (hx : w.Returned i q r x)
    (hy : w.Returned j q' r' y) (other : i ≠ j) {ts : List Token}
    (parsed : parse r.template.toList = .ok ts) :
    (scopeOf r q = scopeOf r' q' → Prints ts .sequence → x.number ≠ y.number) ∧
    (r'.template = r.template → r'.width = r.width →
      OneCodeDiffers ts (context r q x.sequence) (context r' q' y.sequence) →
      (x.number = y.number ↔ ∀ label, Prints ts label →
        (context r q x.sequence).SameAt (context r' q' y.sequence) label)) := by
  have sx := reached.source hx
  have sy := reached.source hy
  refine ⟨?_, sx.number_eq_iff sy parsed⟩
  intro scope printed same
  obtain rfl : r = r' := reached.sound.valid.catalogue.eq_of_id hx.rule.1 hy.rule.1
    (congrArg Scope.rule scope)
  have department : q.department = q'.department := congrArg Scope.department scope
  have agree := (sx.number_eq_iff sy parsed rfl rfl
    (.inl fun _ => congrArg some department)).mp same
  exact reached.sequence_ne sx sy other scope (agree .sequence printed)

/-- A series that counts anew every month, and does not print the month. -/
def series : Draft :=
  { invoices with name := "Series", template := "\x7bdepartment\x7d-\x7byear2\x7d\x7bseq:3\x7d" }

theorem number_eq_iff_printed_series : ∃ x y,
    (twice series order nextOrder).pool.calls = [.finished (.ok x), .finished (.ok y)] ∧
      x.number = y.number := by
  have calls : (twice series order nextOrder).pool.calls =
      [.finished (.ok ⟨"T-25001", 1, 1, series.template⟩),
        .finished (.ok ⟨"T-25001", 1, 1, series.template⟩)] := by
    with_unfolding_all rfl
  have stored : Rule.ofDraft 1 series ∈ (twice series order nextOrder).pool.state.rules := by
    decide +kernel
  have parsed : parse (Rule.ofDraft 1 series).template.toList =
      .ok [.place .department none, .literal ['-'], .place .year2 none,
        .place .sequence (some 3)] := by
    decide +kernel
  have first : (twice series order nextOrder).Returned 0 order (Rule.ofDraft 1 series)
      ⟨"T-25001", 1, 1, series.template⟩ :=
    ⟨congrArg (·[0]?) calls, ⟨order, rfl, by decide +kernel⟩, stored, rfl⟩
  have second : (twice series order nextOrder).Returned 1 nextOrder (Rule.ofDraft 1 series)
      ⟨"T-25001", 1, 1, series.template⟩ :=
    ⟨congrArg (·[1]?) calls, ⟨nextOrder, rfl, by decide +kernel⟩, stored, rfl⟩
  have iff := (number_eq_iff_printed (twice_reached series order nextOrder) first second
    (by decide) parsed).2 rfl rfl (.inl fun _ => rfl)
  refine ⟨_, _, calls, iff.mpr ?_⟩
  rintro label ⟨w, printed⟩
  cases label <;> first | rfl | simp at printed

/-- Made one after the other, two calls of different months get the same number. -/
theorem series_number_repeats :
    let s := (Engine.memory.create series .empty).state
    let march := plain.generate (fun _ => false) order s
    let april := plain.generate (fun _ => false) nextOrder march.state
    march.result = .ok ⟨"T-25001", 1, 1, series.template⟩ ∧
      april.result = .ok ⟨"T-25001", 1, 1, series.template⟩ := by
  decide +kernel

end DocNumber.Issuing
