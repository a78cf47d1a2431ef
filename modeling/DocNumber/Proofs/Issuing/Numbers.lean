import DocNumber.Proofs.Store.Valid
import DocNumber.Proofs.Template.Alignment

/-!
The number that a usable rule prints. Printing never fails, every value within the limit fits its
places, and of two numbers printed from one template `number_eq_iff` says when they are equal.
-/

namespace DocNumber.Issuing

open Store Template

theorem number_of_parse {r : Rule} {ts : List Token} (h : parse r.template.toList = .ok ts)
    (wide : Wide r.width ts) (q : Request) (n : Int) :
    number r q n =
      .ok ⟨String.ofList (ts.flatMap (Token.text (context r q n))), r.id, n, r.template⟩ := by
  rw [number, render_of_parse ⟨rfl, rfl⟩ h wide, Except.map]

/-- Where there is a limit there is a number, for every value. -/
theorem number_of_limit {r : Rule} {limit : Nat} (h : r.limit = .ok limit) (q : Request) (n : Int) :
    ∃ x, number r q n = .ok x := by
  obtain ⟨ts, parsed, wide⟩ := wide_of_sequenceLimit h
  exact ⟨_, number_of_parse parsed wide q n⟩

theorem number_usable {r : Rule} (h : r.Usable) (q : Request) (n : Int) :
    ∃ x, number r q n = .ok x := by
  obtain ⟨limit, hl⟩ := h.limit
  exact number_of_limit hl q n

theorem context_fits {r : Rule} {ts : List Token} (usable : r.Usable)
    (h : parse r.template.toList = .ok ts) (q : Request) {n : Int} (hn : InLimit r n) :
    (context r q n).Fits ts := by
  obtain ⟨pos, limit, hl, le⟩ := hn
  obtain ⟨year_pos, year_le, month_pos, month_le, -, -⟩ := q.day.valid
  have eq : Template.limitOf r.width ts = limit := by
    simpa [usable.limit_of_parse h] using hl
  refine ⟨⟨rfl, rfl⟩, ?_, ?_, ?_, usable.width⟩
  · change 0 ≤ (q.day.year : Int) ∧ (q.day.year : Int) ≤ 9999
    omega
  · change 0 ≤ (q.day.month : Int) ∧ (q.day.month : Int) ≤ 99
    omega
  · change 0 ≤ n ∧ n ≤ (Template.limitOf r.width ts : Int)
    omega

/-- Two numbers from one template and width, at most one of whose printed codes differs, are equal
exactly when all that is printed is. -/
theorem number_eq_iff {r r' : Rule} {q q' : Request} {x y : Issued} {ts : List Token}
    (usable : r.Usable) (usable' : r'.Usable) (template : r'.template = r.template)
    (width : r'.width = r.width) (h : parse r.template.toList = .ok ts)
    (hx : number r q x.sequence = .ok x) (hy : number r' q' y.sequence = .ok y)
    (inLimit : InLimit r x.sequence) (inLimit' : InLimit r' y.sequence)
    (one : OneCodeDiffers ts (context r q x.sequence) (context r' q' y.sequence)) :
    x.number = y.number ↔ ∀ label, Prints ts label →
      (context r q x.sequence).SameAt (context r' q' y.sequence) label := by
  have h' : parse r'.template.toList = .ok ts := template ▸ h
  have text := flatMap_text_eq_iff (parse_proper h) (context_fits usable h q inLimit)
    (context_fits usable' h' q' inLimit') width.symm one
  rw [← text]
  rw [number_of_parse h (usable.wide ts)] at hx
  rw [number_of_parse h' (usable'.wide ts)] at hy
  rw [← congrArg Issued.number (Except.ok.inj hx), ← congrArg Issued.number (Except.ok.inj hy)]
  constructor
  · intro same
    simpa using congrArg String.toList same
  · intro same
    exact congrArg String.ofList same

end DocNumber.Issuing
