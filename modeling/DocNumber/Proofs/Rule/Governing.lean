import DocNumber.Proofs.Rule.Choice
import Mathlib.Data.List.Nodup

/-!
The governing rule, described by what it is compared with and not by where it stands: it applies, it
is of the better class, and it stands before every other such rule of its class. Where numbers of
rules are unique there is at most one, and it is what is picked, in whatever order the rules come
(`pick_eq_governing`).
-/

namespace DocNumber.Rule

/-- The rule lists the document type, and the day is in its window, both ends included. -/
structure Applies (r : Rule) (documentType : String) (day : Calendar.Day) : Prop where
  listed : documentType ∈ r.types
  begun : r.window.first ≤ day
  lasts : ∀ last, r.window.last = some last → day ≤ last

theorem appliesTo_iff {r : Rule} {documentType : String} {day : Calendar.Day} :
    r.appliesTo documentType day = true ↔ r.Applies documentType day := by
  rw [appliesTo, Bool.and_eq_true, List.contains_iff_mem, Window.contains_iff]
  exact ⟨fun ⟨listed, begun, lasts⟩ => ⟨listed, begun, lasts⟩,
    fun ⟨listed, begun, lasts⟩ => ⟨listed, begun, lasts⟩⟩

/-- The rule applies, is of the department or stands in for it, and goes before all others of its
class that apply. -/
structure Governing (rules : List Rule) (documentType department : String) (day : Calendar.Day)
    (r : Rule) : Prop where
  stored : r ∈ rules
  applies : r.Applies documentType day
  own : r.department = some department ∨
    r.department = none ∧ ∀ a ∈ rules, a.Applies documentType day → a.department ≠ some department
  before : ∀ a ∈ rules, a.Applies documentType day → a.department = r.department → a ≠ r →
    r.Before a

variable {rules others : List Rule} {documentType department : String} {day : Calendar.Day}
  {r a b : Rule}

/-- The classes do not mix: generic rules are candidates only where no rule is of the
department. -/
theorem mem_candidates : r ∈ candidates rules department ↔
    r ∈ rules ∧ (r.department = some department ∨
      r.department = none ∧ ∀ a ∈ rules, a.department ≠ some department) := by
  have mem_own (a : Rule) : (a ∈ rules.filter fun r => r.department == some department) ↔
      a ∈ rules ∧ a.department = some department := by
    rw [List.mem_filter, beq_iff_eq]
  unfold candidates
  dsimp only
  split
  · rename_i noOwn
    have absent : ∀ a ∈ rules, a.department ≠ some department := by
      intro a ha own
      have := (mem_own a).mpr ⟨ha, own⟩
      rw [List.isEmpty_iff.mp noOwn] at this
      cases this
    rw [List.mem_filter, beq_iff_eq]
    constructor
    · rintro ⟨hr, generic⟩
      exact ⟨hr, .inr ⟨generic, absent⟩⟩
    · rintro ⟨hr, own | ⟨generic, -⟩⟩
      · exact absurd own (absent r hr)
      · exact ⟨hr, generic⟩
  · rename_i someOwn
    obtain ⟨a, ha⟩ := List.exists_mem_of_ne_nil _ (mt List.isEmpty_iff.mpr someOwn)
    rw [mem_own] at ha ⊢
    constructor
    · rintro ⟨hr, own⟩
      exact ⟨hr, .inl own⟩
    · rintro ⟨hr, own | ⟨-, absent⟩⟩
      · exact ⟨hr, own⟩
      · exact absurd ha.2 (absent a ha.1)

/-- What is picked goes before every other candidate, strictly since their numbers differ. -/
theorem governing_of_pick (distinct : (rules.map Rule.id).Nodup)
    (h : pick rules documentType department day = some r) :
    Governing rules documentType department day r := by
  have mem_applying (a : Rule) : (a ∈ rules.filter fun r => r.appliesTo documentType day) ↔
      a ∈ rules ∧ a.Applies documentType day := by
    rw [List.mem_filter, appliesTo_iff]
  have candidate := mem_candidates.mp (first?_mem h)
  obtain ⟨applying, own⟩ := candidate
  obtain ⟨stored, applies⟩ := (mem_applying r).mp applying
  refine ⟨stored, applies, ?_, ?_⟩
  · apply own.imp_right
    rintro ⟨generic, absent⟩
    exact ⟨generic, fun a ha hap => absent a ((mem_applying a).mpr ⟨ha, hap⟩)⟩
  · intro a ha hap same ne
    have rival : a ∈ candidates (rules.filter fun r => r.appliesTo documentType day) department :=
      mem_candidates.mpr ⟨(mem_applying a).mpr ⟨ha, hap⟩, same ▸ own⟩
    apply before_of_precedes (first?_precedes h a rival)
    intro ids
    exact ne (List.inj_on_of_nodup_map distinct ha stored ids.symm)

theorem Governing.eq (ha : Governing rules documentType department day a)
    (hb : Governing rules documentType department day b) : a = b := by
  have same : a.department = b.department := by
    rcases ha.own with own | ⟨generic, noOwn⟩
    · rcases hb.own with own' | ⟨-, noOwn'⟩
      · exact own.trans own'.symm
      · exact absurd own (noOwn' a ha.stored ha.applies)
    · rcases hb.own with own' | ⟨generic', -⟩
      · exact absurd own' (noOwn b hb.stored hb.applies)
      · exact generic.trans generic'.symm
  by_contra ne
  have first := ha.before b hb.stored hb.applies same.symm (Ne.symm ne)
  have second := hb.before a ha.stored ha.applies same ne
  unfold Before at first second
  omega

theorem Governing.governs (h : Governing rules documentType department day r) :
    r.Governs documentType department day :=
  ⟨appliesTo_iff.mpr h.applies, h.own.imp_right And.left⟩

theorem pick_eq_some_iff (distinct : (rules.map Rule.id).Nodup) :
    pick rules documentType department day = some r ↔
      Governing rules documentType department day r := by
  constructor
  · exact governing_of_pick distinct
  · intro governing
    cases hp : pick rules documentType department day with
    | none => exact absurd governing.governs (pick_eq_none_iff.mp hp r governing.stored)
    | some a => rw [(governing_of_pick distinct hp).eq governing]

theorem Governing.perm (h : Governing rules documentType department day r)
    (same : rules.Perm others) : Governing others documentType department day r where
  stored := same.mem_iff.mp h.stored
  applies := h.applies
  own := h.own.imp_right fun ⟨generic, absent⟩ =>
    ⟨generic, fun a ha => absent a (same.mem_iff.mpr ha)⟩
  before a ha := h.before a (same.mem_iff.mpr ha)

/-- Nothing is picked exactly where no rule that applies is of the department or generic; what is
picked is the governing rule; and the order of the rules makes no difference. -/
theorem pick_eq_governing (distinct : (rules.map Rule.id).Nodup)
    (documentType department : String) (day : Calendar.Day) :
    (pick rules documentType department day = none ↔
      ∀ a ∈ rules, a.Applies documentType day →
        a.department ≠ some department ∧ a.department ≠ none) ∧
    (∀ r, pick rules documentType department day = some r ↔
      Governing rules documentType department day r) ∧
    ∀ others, rules.Perm others →
      pick others documentType department day = pick rules documentType department day := by
  refine ⟨?_, fun r => pick_eq_some_iff distinct, ?_⟩
  · simp only [pick_eq_none_iff, Governs, appliesTo_iff, not_and, not_or]
  · intro others same
    have distinct' : (others.map Rule.id).Nodup := (same.map Rule.id).nodup_iff.mp distinct
    ext r
    rw [pick_eq_some_iff distinct, pick_eq_some_iff distinct']
    exact ⟨fun h => h.perm same.symm, fun h => h.perm same⟩

/-- Better priorities do not help a rule past its window, nor a generic one beside a rule of the
department; of two equal priorities the lower number goes first. -/
theorem pick_eq_governing_overlap :
    let january : Calendar.Day := ⟨2025, 1, 1, by decide⟩
    let march : Calendar.Day := ⟨2025, 3, 14, by decide⟩
    let generic : Rule := ⟨1, "Invoices", "\x7bseq\x7d", 3, none, ["INV"], ⟨january, none⟩, 1⟩
    let own : Rule := { generic with id := 2, department := some "T", priority := 9 }
    let later : Rule := { own with id := 4 }
    let past : Rule := { own with id := 3, window := ⟨january, some january⟩, priority := 0 }
    let rules := [later, generic, past, own]
    (rules.map Rule.id).Nodup ∧ Governing rules "INV" "T" march own ∧
      pick rules.reverse "INV" "T" march = some own := by
  intro january march generic own later past rules
  have distinct : (rules.map Rule.id).Nodup := by decide
  obtain ⟨-, picked, anyOrder⟩ := pick_eq_governing distinct "INV" "T" march
  have governing : Governing rules "INV" "T" march own := (picked own).mp (by decide)
  refine ⟨distinct, governing, ?_⟩
  exact (anyOrder rules.reverse rules.reverse_perm.symm).trans ((picked own).mpr governing)

end DocNumber.Rule
