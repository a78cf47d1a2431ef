import DocNumber.Proofs.Issuing.Resolution

/-!
What a new rule changes. It has the greatest number, so between equals the older rule stays in
front; it is found where it governs and nothing was found before, or only a generic rule while it
is of the department, or a rule of its own class with a higher priority. Everywhere else the rule
that is found stays the one it was.
-/

namespace DocNumber.Rule

instance (r : Rule) (documentType department : String) (day : Calendar.Day) :
    Decidable (r.Governs documentType department day) :=
  inferInstanceAs (Decidable (_ ∧ _))

/-- The rule goes before the choice made without it. -/
def Outranks (r : Rule) : Option Rule → Prop
  | none => True
  | some old =>
    (r.department ≠ none ∧ old.department = none) ∨
      (r.department = old.department ∧ r.priority < old.priority)

instance (r : Rule) : (choice : Option Rule) → Decidable (r.Outranks choice)
  | none => inferInstanceAs (Decidable True)
  | some _ => inferInstanceAs (Decidable (_ ∨ _))

/-- A rule at the end of the list comes first only where it precedes all others strictly. -/
theorem first?_concat (rules : List Rule) (r : Rule) :
    first? (rules ++ [r]) =
      match first? rules with
      | none => some r
      | some best => if best.precedes r then some best else some r := by
  induction rules with
  | nil => rfl
  | cons a rules ih =>
    rw [List.cons_append, first?, first?, ih]
    cases first? rules with
    | none => rfl
    | some best =>
      dsimp only
      by_cases before : best.precedes r = true
      · by_cases first : a.precedes best = true
        · have := precedes_trans first before
          simp [before, first, this]
        · simp [before, first]
      · by_cases first : a.precedes best = true
        · simp [before, first]
        · -- The new rule precedes the best one, which precedes the first in the list.
          have after : r.precedes best = true := by simpa [before] using precedes_total best r
          have last : ¬a.precedes r = true := fun h => first (precedes_trans h after)
          simp [before, first, last]

theorem precedes_newer {a r : Rule} (h : a.id < r.id) :
    a.precedes r = decide (a.priority ≤ r.priority) := by
  apply Bool.eq_iff_iff.mpr
  simp only [precedes, Bool.or_eq_true, Bool.and_eq_true, decide_eq_true_eq, beq_iff_eq]
  omega

/-- Among rules of one class, a newer one comes first only with a lower priority. -/
theorem first?_newest {rules : List Rule} {r : Rule} (newest : ∀ a ∈ rules, a.id < r.id)
    (same : ∀ a ∈ rules, a.department = r.department) :
    first? (rules ++ [r]) = if r.Outranks (first? rules) then some r else first? rules := by
  rw [first?_concat]
  cases hf : first? rules with
  | none => rfl
  | some best =>
    have stored := first?_mem hf
    have ranks : r.Outranks (some best) ↔ r.priority < best.priority := by
      simp only [Outranks, same best stored]
      grind
    simp only [precedes_newer (newest best stored), ranks, decide_eq_true_eq]
    split
    · rw [if_neg (by omega)]
    · rw [if_pos (by omega)]

section

variable {own generic : List Rule} {r : Rule}

/-- A newer rule of the department goes before every generic one. -/
theorem first?_newest_own (department : r.department ≠ none) (newest : ∀ a ∈ own, a.id < r.id)
    (same : ∀ a ∈ own, a.department = r.department) (others : ∀ a ∈ generic, a.department = none) :
    (first? (own ++ [r])).or (first? generic) =
      if r.Outranks ((first? own).or (first? generic)) then some r
      else (first? own).or (first? generic) := by
  rw [first?_newest newest same]
  cases first? own with
  | none =>
    have above : r.Outranks (first? generic) := by
      cases hg : first? generic with
      | none => trivial
      | some p => exact .inl ⟨department, others p (first?_mem hg)⟩
    rw [if_pos (show r.Outranks none from trivial), Option.none_or, if_pos above]
    rfl
  | some p =>
    by_cases above : r.Outranks (some p) <;> simp [above]

/-- A newer generic rule never goes before one of the department. -/
theorem first?_newest_generic (department : r.department = none)
    (newest : ∀ a ∈ generic, a.id < r.id) (same : ∀ a ∈ generic, a.department = none)
    (others : ∀ a ∈ own, a.department ≠ none) :
    (first? own).or (first? (generic ++ [r])) =
      if r.Outranks ((first? own).or (first? generic)) then some r
      else (first? own).or (first? generic) := by
  rw [first?_newest newest (by simpa [department] using same)]
  cases ho : first? own with
  | none => rfl
  | some p =>
    have below : ¬r.Outranks (some p) := by
      have := others p (first?_mem ho)
      simp [Outranks, department, Ne.symm this]
    rw [Option.some_or, Option.some_or, if_neg below]

end

/-- A rule newer than all others is picked where it governs and outranks the pick without it. -/
theorem pick_newest {rules : List Rule} {r : Rule} (newest : ∀ a ∈ rules, a.id < r.id)
    (documentType department : String) (day : Calendar.Day) :
    pick (rules ++ [r]) documentType department day =
      if r.Governs documentType department day ∧
          r.Outranks (pick rules documentType department day) then some r
      else pick rules documentType department day := by
  rw [pick_eq_or, pick_eq_or]
  dsimp only
  rw [List.filter_append]
  by_cases applies : r.appliesTo documentType day = true
  · have only : [r].filter (fun r => r.appliesTo documentType day) = [r] := by simp [applies]
    rw [only, List.filter_append, List.filter_append]
    have older (code : Option String) :
        ∀ a ∈ (rules.filter fun r => r.appliesTo documentType day).filter
          (fun r => r.department == code), a.id < r.id ∧ a.department = code := by
      intro a ha
      obtain ⟨applying, of_class⟩ := List.mem_filter.mp ha
      exact ⟨newest a (List.mem_filter.mp applying).1, by simpa using of_class⟩
    by_cases generic : r.department = none
    · have governs : r.Governs documentType department day := ⟨applies, .inr generic⟩
      simp only [governs, true_and]
      rw [← first?_newest_generic generic (fun a ha => (older _ a ha).1)
        (fun a ha => (older _ a ha).2) (fun a ha => by simp [(older _ a ha).2])]
      simp [generic]
    · by_cases own : r.department = some department
      · have governs : r.Governs documentType department day := ⟨applies, .inl own⟩
        simp only [governs, true_and]
        rw [← first?_newest_own generic (fun a ha => (older _ a ha).1)
          (fun a ha => by rw [(older _ a ha).2, own]) (fun a ha => (older _ a ha).2)]
        simp [own]
      · have governs : ¬r.Governs documentType department day := fun h =>
          h.2.elim own generic
        simp [own, generic, governs]
  · have none : [r].filter (fun r => r.appliesTo documentType day) = [] := by simp [applies]
    rw [none, List.append_nil, if_neg]
    exact fun h => applies h.1.1

end DocNumber.Rule

namespace DocNumber.Store

theorem Catalogue.id_le {rules : List Rule} (h : Catalogue rules) {r : Rule} (hr : r ∈ rules) :
    r.id ≤ rules.length := by
  obtain ⟨i, hi⟩ := List.getElem?_of_mem hr
  have inside := (List.getElem?_eq_some_iff.mp hi).1
  have := h.numbered i r hi
  omega

end DocNumber.Store

namespace DocNumber.Issuing

open Store

/-- The rule found after a creation is the new one where that governs and outranks the rule found
before; in every other case it is the rule found before. -/
theorem find_after_create {e : Engine} {w : Course} (reached : Reachable e w) {d : Draft} {r : Rule}
    (created : (e.create d w.pool.state).result = .ok r) (documentType department : String)
    (day : Calendar.Day) :
    ∃ before, e.find documentType department day w.pool.state = .ok before ∧
      e.find documentType department day (e.create d w.pool.state).state =
        .ok (if r.Governs documentType department day ∧ r.Outranks before then some r
          else before) := by
  have up := Engine.up_of_created created
  have catalogue := reached.sound.valid.catalogue
  rcases e.create_cases d catalogue with ⟨f, failed, -⟩ | ⟨d', -, made, added, -⟩
  · rw [failed] at created
    cases created
  · obtain rfl := Except.ok.inj (made.symm.trans created)
    have newest : ∀ a ∈ w.pool.state.rules,
        a.id < (Rule.ofDraft (w.pool.state.rules.length + 1) d').id := by
      intro a ha
      exact Int.lt_add_one_of_le (catalogue.id_le ha)
    refine ⟨_, Engine.find_eq_pick up _ _ _ _, ?_⟩
    rw [Engine.find_eq_pick up, added]
    exact congrArg Except.ok (Rule.pick_newest newest documentType department day)

/-- A second rule for the same invoices, of a lower priority and then of the same one. -/
theorem find_after_create_urgent :
    let urgent := { invoices with priority := 50 }
    let w := twice invoices order nextOrder
    Engine.memory.find "INV" "T" order.day w.pool.state = .ok (some (Rule.ofDraft 1 invoices)) ∧
      Engine.memory.find "INV" "T" order.day (Engine.memory.create urgent w.pool.state).state =
        .ok (some (Rule.ofDraft 2 urgent)) ∧
      Engine.memory.find "INV" "T" order.day (Engine.memory.create invoices w.pool.state).state =
        .ok (some (Rule.ofDraft 1 invoices)) := by
  intro urgent w
  have reached : Reachable .memory w := twice_reached invoices order nextOrder
  have first : Engine.memory.find "INV" "T" order.day w.pool.state =
      .ok (some (Rule.ofDraft 1 invoices)) := by decide +kernel
  have lower : (Engine.memory.create urgent w.pool.state).result =
      .ok (Rule.ofDraft 2 urgent) := by decide +kernel
  have equal : (Engine.memory.create invoices w.pool.state).result =
      .ok (Rule.ofDraft 2 invoices) := by decide +kernel
  obtain ⟨_, found, after⟩ := find_after_create reached lower "INV" "T" order.day
  obtain ⟨_, found', after'⟩ := find_after_create reached equal "INV" "T" order.day
  obtain rfl := Except.ok.inj (found.symm.trans first)
  obtain rfl := Except.ok.inj (found'.symm.trans first)
  refine ⟨first, after.trans ?_, after'.trans ?_⟩
  · decide +kernel
  · decide +kernel

end DocNumber.Issuing
