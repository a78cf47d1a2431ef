import DocNumber.Proofs.Issuing.Reachable
import DocNumber.Proofs.Store.Search

/-!
Which rule is found. A search and a resolution test the window, the type and the department of a
rule on their own, in each store; on any catalogue they lead to the same rule, and one is found
wherever a rule governs.
-/

namespace DocNumber.Issuing

open Store

/-- Where a rule governs, some rule is found. -/
theorem resolve_governed {v : Service} (up : v.engine ≠ .down) {s : State} {q : Request} {r : Rule}
    (found : Found s q r) : ∃ r', v.resolve q.documentType q.department q.day s = .ok r' := by
  obtain ⟨stored, governs⟩ := found
  unfold Service.resolve
  rw [Engine.find_eq_pick up]
  cases hp : Rule.pick s.rules q.documentType q.department q.day with
  | none => exact absurd governs (Rule.pick_eq_none_iff.mp hp r stored)
  | some r' => exact ⟨r', rfl⟩

/-- The rule found for a request is the first row of the search for its department, or else the
first generic row of the search for all. -/
theorem find_eq_search {e : Engine} {w : Course} (reached : Reachable e w) (up : e ≠ .down)
    (documentType department : String) (day : Calendar.Day) {limit limit' : Int}
    (room : w.pool.state.rules.length ≤ limit) (room' : w.pool.state.rules.length ≤ limit') :
    ∃ own every,
      e.search ⟨some department, some documentType, some day⟩ limit 0 w.pool.state = .ok own ∧
      e.search ⟨none, some documentType, some day⟩ limit' 0 w.pool.state = .ok every ∧
      e.find documentType department day w.pool.state =
        .ok (own.rows.head?.or (every.rows.filter fun r => r.department == none).head?) := by
  have catalogue := reached.sound.valid.catalogue
  obtain ⟨own, foundOwn, ownRows⟩ := Engine.search_all up catalogue
    (f := ⟨some department, some documentType, some day⟩) rfl room
  obtain ⟨every, foundEvery, everyRows⟩ := Engine.search_all up catalogue
    (f := ⟨none, some documentType, some day⟩) rfl room'
  refine ⟨own, every, foundOwn, foundEvery, ?_⟩
  have first : own.rows.head? =
      Rule.first? ((w.pool.state.rules.filter fun r => r.appliesTo documentType day).filter
        fun r => r.department == some department) := by
    rw [ownRows, head?_ordered_filter catalogue, List.filter_filter]
    apply congrArg Rule.first?
    apply List.filter_congr
    intro r _
    exact Filters.admits_typed (some department) documentType day r
  have generic : (every.rows.filter fun r => r.department == none).head? =
      Rule.first? ((w.pool.state.rules.filter fun r => r.appliesTo documentType day).filter
        fun r => r.department == none) := by
    rw [everyRows, List.filter_filter, head?_ordered_filter catalogue, List.filter_filter]
    simp only [Filters.admits_typed, Filters.ofDepartment, Bool.true_and]
  rw [Engine.find_eq_pick up, Rule.pick_eq_or, first, generic]

theorem find_eq_search_invoices :
    let own := { invoices with department := some "T" }
    let w := twice invoices order nextOrder
    let s := (Engine.memory.create own w.pool.state).state
    ∃ rows every,
      Engine.memory.search ⟨some "T", some "INV", some order.day⟩ 2 0 s = .ok rows ∧
      Engine.memory.search ⟨none, some "INV", some order.day⟩ 5 0 s = .ok every ∧
      rows.rows.head?.or (every.rows.filter fun r => r.department == none).head? =
        some (Rule.ofDraft 2 own) := by
  intro own w s
  have reached : Reachable .memory (w.inStore s) := (twice_reached _ _ _).step (.create own)
  have room : s.rules.length ≤ (2 : Int) := by decide +kernel
  have more : s.rules.length ≤ (5 : Int) := by decide +kernel
  obtain ⟨rows, every, foundRows, foundEvery, found⟩ :=
    find_eq_search reached (by decide) "INV" "T" order.day room more
  refine ⟨rows, every, foundRows, foundEvery, ?_⟩
  have second : Engine.memory.find "INV" "T" order.day s = .ok (some (Rule.ofDraft 2 own)) := by
    decide +kernel
  exact Except.ok.inj (found.symm.trans second)

end DocNumber.Issuing
