import DocNumber.Rule.Choice

/-!
What is known of the rule that is picked: it is one of the rules at hand, it applies, and it is
of the department or generic; none is picked only where no rule is so. Rules of which none of this
holds can be left out beforehand. The first rule in precedence precedes all others.
-/

namespace DocNumber

theorem Window.contains_iff {w : Window} {day : Calendar.Day} :
    w.contains day = true ↔ w.first ≤ day ∧ ∀ last, w.last = some last → day ≤ last := by
  unfold Window.contains
  cases w.last <;> simp

namespace Rule

/-- The rule lists the document type, is in force on the day, and is of the department or
generic. -/
def Governs (r : Rule) (documentType department : String) (day : Calendar.Day) : Prop :=
  r.appliesTo documentType day = true ∧ (r.department = some department ∨ r.department = none)

theorem precedes_trans {a b c : Rule} (hab : a.precedes b = true) (hbc : b.precedes c = true) :
    a.precedes c = true := by
  simp only [precedes, Bool.or_eq_true, Bool.and_eq_true, decide_eq_true_eq,
    beq_iff_eq] at hab hbc ⊢
  omega

theorem precedes_total (a b : Rule) : (a.precedes b || b.precedes a) = true := by
  simp only [precedes, Bool.or_eq_true, Bool.and_eq_true, decide_eq_true_eq, beq_iff_eq]
  omega

theorem id_eq_of_precedes {a b : Rule} (hab : a.precedes b = true) (hba : b.precedes a = true) :
    a.id = b.id := by
  simp only [precedes, Bool.or_eq_true, Bool.and_eq_true, decide_eq_true_eq,
    beq_iff_eq] at hab hba
  omega

/-- `a` stands before `b` where rules are ordered by priority and then by number. -/
def Before (a b : Rule) : Prop :=
  a.priority < b.priority ∨ a.priority = b.priority ∧ a.id < b.id

theorem before_of_precedes {a b : Rule} (h : a.precedes b = true) (distinct : a.id ≠ b.id) :
    a.Before b := by
  simp only [precedes, Bool.or_eq_true, Bool.and_eq_true, decide_eq_true_eq, beq_iff_eq] at h
  unfold Before
  omega

theorem first?_mem {rules : List Rule} {r : Rule} (h : first? rules = some r) : r ∈ rules := by
  induction rules generalizing r with
  | nil => cases h
  | cons a rules ih =>
    rw [first?] at h
    cases hb : first? rules with
    | none =>
      obtain rfl : a = r := by simpa [hb] using h
      exact List.mem_cons_self
    | some best =>
      simp only [hb] at h
      split at h
      · obtain rfl : a = r := by simpa using h
        exact List.mem_cons_self
      · obtain rfl : best = r := by simpa using h
        exact List.mem_cons_of_mem _ (ih hb)

theorem first?_eq_none_iff {rules : List Rule} : first? rules = none ↔ rules = [] := by
  cases rules with
  | nil => simp [first?]
  | cons a rules =>
    rw [first?]
    cases first? rules with
    | none => simp
    | some best =>
      dsimp only
      split <;> simp

theorem first?_precedes {rules : List Rule} {r : Rule} (h : first? rules = some r) :
    ∀ a ∈ rules, r.precedes a = true := by
  induction rules generalizing r with
  | nil => cases h
  | cons b rules ih =>
    have self (a : Rule) : a.precedes a = true := by simpa using precedes_total a a
    rw [first?] at h
    intro a ha
    cases hb : first? rules with
    | none =>
      obtain rfl : b = r := by simpa [hb] using h
      obtain rfl := first?_eq_none_iff.mp hb
      obtain rfl := List.mem_singleton.mp ha
      exact self a
    | some best =>
      have below := ih hb
      simp only [hb] at h
      split at h
      · rename_i first
        obtain rfl : b = r := by simpa using h
        rcases List.mem_cons.mp ha with rfl | rest
        · exact self a
        · exact precedes_trans first (below a rest)
      · rename_i later
        obtain rfl : best = r := by simpa using h
        rcases List.mem_cons.mp ha with rfl | rest
        · have either := precedes_total a best
          simpa [later] using either
        · exact below a rest

/-- The first rule of the department, or else the first generic one. -/
theorem pick_eq_or (rules : List Rule) (documentType department : String) (day : Calendar.Day) :
    pick rules documentType department day =
      let applying := rules.filter fun r => r.appliesTo documentType day
      (first? (applying.filter fun r => r.department == some department)).or
        (first? (applying.filter fun r => r.department == none)) := by
  unfold pick candidates
  dsimp only
  split
  · rename_i noOwn
    rw [List.isEmpty_iff.mp noOwn]
    rfl
  · rename_i someOwn
    cases hf : first? ((rules.filter fun r => r.appliesTo documentType day).filter
      fun r => r.department == some department) with
    | none => exact absurd (List.isEmpty_iff.mpr (first?_eq_none_iff.mp hf)) someOwn
    | some r => rfl

theorem pick_mem {rules : List Rule} {documentType department : String} {day : Calendar.Day}
    {r : Rule} (h : pick rules documentType department day = some r) :
    r ∈ rules ∧ r.Governs documentType department day := by
  have hc := first?_mem h
  simp only [candidates] at hc
  split at hc
  · simp only [List.mem_filter, beq_iff_eq] at hc
    exact ⟨hc.1.1, hc.1.2, .inr hc.2⟩
  · simp only [List.mem_filter, beq_iff_eq] at hc
    exact ⟨hc.1.1, hc.1.2, .inl hc.2⟩

theorem pick_eq_none_iff {rules : List Rule} {documentType department : String}
    {day : Calendar.Day} : pick rules documentType department day = none ↔
      ∀ r ∈ rules, ¬r.Governs documentType department day := by
  constructor
  · intro none r hr ⟨applies, own⟩
    have empty := first?_eq_none_iff.mp none
    have applying : r ∈ rules.filter fun r => r.appliesTo documentType day :=
      List.mem_filter.mpr ⟨hr, applies⟩
    simp only [candidates] at empty
    split at empty
    · rename_i noOwn
      rcases own with department | generic
      · exact List.not_mem_nil (List.isEmpty_iff.mp noOwn ▸
          List.mem_filter.mpr ⟨applying, by simpa using department⟩)
      · exact List.not_mem_nil (empty ▸ List.mem_filter.mpr ⟨applying, by simpa using generic⟩)
    · rename_i someOwn
      exact someOwn (List.isEmpty_iff.mpr empty)
  · intro none
    cases hp : pick rules documentType department day with
    | none => rfl
    | some r =>
      obtain ⟨hr, governs⟩ := pick_mem hp
      exact absurd governs (none r hr)

theorem pick_filter {rules : List Rule} {documentType department : String} {day : Calendar.Day}
    {keep : Rule → Bool} (h : ∀ r : Rule, r.Governs documentType department day → keep r = true) :
    pick (rules.filter keep) documentType department day =
      pick rules documentType department day := by
  have filters (p : Rule → Bool)
      (hp : ∀ r, p r = true → r.department = some department ∨ r.department = none) :
      ((rules.filter keep).filter fun r => r.appliesTo documentType day).filter p =
        (rules.filter fun r => r.appliesTo documentType day).filter p := by
    simp only [List.filter_filter]
    apply List.filter_congr
    intro r _
    apply Bool.eq_iff_iff.mpr
    simp only [Bool.and_eq_true]
    constructor
    · rintro ⟨hr, ha, -⟩
      exact ⟨hr, ha⟩
    · rintro ⟨hr, ha⟩
      exact ⟨hr, ha, h r ⟨ha, hp r hr⟩⟩
  have own := filters (fun r => r.department == some department)
    fun r hr => .inl (by simpa using hr)
  have generic := filters (fun r => r.department == none) fun r hr => .inr (by simpa using hr)
  simp only [pick, candidates, own, generic]

end Rule

end DocNumber
