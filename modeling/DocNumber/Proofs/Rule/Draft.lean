import DocNumber.Proofs.Rule.Codes

/-!
Drafts that are accepted, and what is said of the others. There are six conditions on a draft, tried
in a fixed order; nothing is wrong with a draft exactly when it meets them all (`Sound`), and of one
that does not, the first that it does not meet is reported (`refusal?_eq_some_iff`).
-/

namespace DocNumber

theorem Window.reversed_eq_false_iff {w : Window} :
    w.reversed = false ↔ ∀ last, w.last = some last → w.first ≤ last := by
  unfold Window.reversed
  cases hl : w.last with
  | none => simp
  | some last =>
    simp only [decide_eq_false_iff_not, Option.some.injEq, forall_eq']
    exact Nat.not_lt

namespace Draft

/-- What is asked of a draft. -/
inductive Condition
  | name
  | template
  | digits
  | types
  | period
  | parsed
deriving DecidableEq

namespace Condition

variable {d : Draft} {c : Condition} {r : Refusal}

/-- In the order in which they are tried. -/
def all : List Condition :=
  [.name, .template, .digits, .types, .period, .parsed]

theorem mem_all (c : Condition) : c ∈ all := by
  cases c <;> decide

def Met (d : Draft) : Condition → Prop
  | .name => Text.allBlank d.name = false
  | .template => Text.allBlank d.template = false
  | .digits => 1 ≤ d.digits ∧ d.digits ≤ Template.maxWidth
  | .types => ∃ code ∈ d.types, Text.allBlank code = false
  | .period => ∀ last, d.window.last = some last → d.window.first ≤ last
  | .parsed => ∃ ts, Template.parse d.template.toList = .ok ts

/-- How a condition that is not met is reported; a template that cannot be read, with its fault. -/
inductive Reports (d : Draft) : Condition → Refusal → Prop
  | name : Reports d .name .emptyName
  | template : Reports d .template .emptyTemplate
  | digits : Reports d .digits .digitsOutOfRange
  | types : Reports d .types .noDocumentTypes
  | period : Reports d .period .periodReversed
  | parsed {fault : Template.Fault} (unread : Template.parse d.template.toList = .error fault) :
      Reports d .parsed (.template d.template fault)

def kind : Condition → Kind
  | .name => .emptyRuleName
  | .template => .emptyTemplate
  | .digits => .invalidSequenceDigits
  | .types => .emptyDocumentTypeCodes
  | .period => .invalidEffectivePeriod
  | .parsed => .templateError

theorem Reports.kind (h : c.Reports d r) : r.kind = c.kind := by
  cases h <;> rfl

/-- One condition tried alone. -/
def refusal? (d : Draft) : Condition → Option Refusal
  | .name => if Text.allBlank d.name then some .emptyName else none
  | .template => if Text.allBlank d.template then some .emptyTemplate else none
  | .digits => if !d.digitsInRange then some .digitsOutOfRange else none
  | .types => if (normalCodes d.types).isEmpty then some .noDocumentTypes else none
  | .period => if d.window.reversed then some .periodReversed else none
  | .parsed =>
    match Template.parse d.template.toList with
    | .error fault => some (.template d.template fault)
    | .ok _ => none

theorem refusal?_eq_none_iff : c.refusal? d = none ↔ c.Met d := by
  cases c with
  | name => simp [refusal?, Met]
  | template => simp [refusal?, Met]
  | digits => simp [refusal?, Met, digitsInRange]
  | types => simp [refusal?, Met, ← normalCodes_ne_nil_iff]
  | period => simp [refusal?, Met, ← Window.reversed_eq_false_iff]
  | parsed => cases hp : Template.parse d.template.toList <;> simp [refusal?, Met, hp]

theorem reports_of_refusal? (h : c.refusal? d = some r) : c.Reports d r := by
  cases c with
  | name | template | digits | types | period =>
    simp only [refusal?, Option.ite_none_right_eq_some, Option.some.injEq] at h
    obtain ⟨-, rfl⟩ := h
    constructor
  | parsed =>
    cases hp : Template.parse d.template.toList with
    | ok ts => simp [refusal?, hp] at h
    | error fault =>
      simp only [refusal?, hp, Option.some.injEq] at h
      subst h
      exact .parsed hp

/-- A condition has one report at most. -/
theorem Reports.eq {r' : Refusal} (h : c.Reports d r) (h' : c.Reports d r') : r = r' := by
  cases h with
  | name | template | digits | types | period =>
    cases h'
    rfl
  | parsed unread =>
    cases h' with
    | parsed unread' => rw [Except.error.inj (unread.symm.trans unread')]

theorem refusal?_eq_some_iff : c.refusal? d = some r ↔ ¬c.Met d ∧ c.Reports d r := by
  rw [← refusal?_eq_none_iff]
  constructor
  · intro h
    exact ⟨by simp [h], reports_of_refusal? h⟩
  · rintro ⟨unmet, reports⟩
    obtain ⟨r', hr'⟩ := Option.ne_none_iff_exists'.mp unmet
    rw [hr', reports.eq (reports_of_refusal? hr')]

/-- The first condition, in their order, that a draft does not meet. -/
structure FirstUnmet (d : Draft) (c : Condition) : Prop where
  unmet : ¬c.Met d
  before : ∃ earlier later, all = earlier ++ c :: later ∧ ∀ b ∈ earlier, b.Met d

end Condition

variable {d d' : Draft} {r : Refusal}

/-- Trying a draft tries its conditions one after the other. -/
theorem refusal?_eq_findSome? (d : Draft) :
    d.refusal? = Condition.all.findSome? (Condition.refusal? d) := by
  unfold refusal?
  simp only [Condition.all, Condition.refusal?, List.findSome?_cons, List.findSome?_nil]
  cases Text.allBlank d.name
  · cases Text.allBlank d.template
    · cases d.digitsInRange
      · rfl
      · cases (normalCodes d.types).isEmpty
        · cases d.window.reversed
          · cases Template.parse d.template.toList <;> rfl
          · rfl
        · rfl
    · rfl
  · rfl

theorem refusal?_eq_some_iff :
    d.refusal? = some r ↔ ∃ c, Condition.FirstUnmet d c ∧ c.Reports d r := by
  rw [refusal?_eq_findSome?, List.findSome?_eq_some_iff]
  simp only [Condition.refusal?_eq_some_iff, Condition.refusal?_eq_none_iff]
  constructor
  · rintro ⟨earlier, c, later, split, ⟨unmet, reports⟩, met⟩
    exact ⟨c, ⟨unmet, earlier, later, split, met⟩, reports⟩
  · rintro ⟨c, ⟨unmet, earlier, later, split, met⟩, reports⟩
    exact ⟨earlier, c, later, split, ⟨unmet, reports⟩, met⟩

/-- What it takes for a draft to be accepted. -/
def Sound (d : Draft) : Prop :=
  ∀ c : Condition, c.Met d

theorem refusal?_eq_none_iff : d.refusal? = none ↔ d.Sound := by
  rw [refusal?_eq_findSome?, List.findSome?_eq_none_iff]
  simp only [Condition.refusal?_eq_none_iff, Condition.mem_all, forall_const, Sound]

theorem accept_ok_iff : d.accept = .ok d' ↔ d.refusal? = none ∧ d.normalize = d' := by
  unfold accept
  cases d.refusal? <;> simp

theorem accept_error_iff : d.accept = .error r ↔ d.refusal? = some r := by
  unfold accept
  cases d.refusal? <;> simp

theorem sound_of_accept (h : d.accept = .ok d') : d.Sound ∧ d.normalize = d' := by
  obtain ⟨none, normal⟩ := accept_ok_iff.mp h
  exact ⟨refusal?_eq_none_iff.mp none, normal⟩

end Draft

end DocNumber
