import DocNumber.Proofs.Store.Catalogue

/-!
Which drafts a store admits. A draft is accepted exactly when it meets all conditions; of any other
the first condition that it does not meet is reported, and no store is touched for it
(`accepted_or_reported`).
-/

namespace DocNumber.Store

open Draft

/-- The draft is accepted, or the first condition that it does not meet is reported and the store
stays as it is, the number of the next rule with it. Of an accepted draft only the texts are brought
into normal form, and each code is kept once. -/
theorem accepted_or_reported (e : Engine) (s : State) (d : Draft) :
    ((∃ d', d.accept = .ok d') ↔ ∀ c : Condition, c.Met d) ∧
    (∀ r, d.accept = .error r ↔
      ∃ c, Condition.FirstUnmet d c ∧ c.Reports d r ∧ r.kind = c.kind) ∧
    (∀ r, d.accept = .error r →
      (e.create d s).result = .error (.refused r) ∧ (e.create d s).state = s) ∧
    ∀ d', d.accept = .ok d' →
      d'.template = d.template ∧ d'.digits = d.digits ∧ d'.window = d.window ∧
        d'.priority = d.priority ∧ FirstOccurrences (written d.types) d'.types := by
  refine ⟨?_, ?_, ?_, ?_⟩
  · simp only [accept_ok_iff, exists_and_left, exists_eq', and_true, refusal?_eq_none_iff,
      Sound]
  · intro r
    rw [accept_error_iff, refusal?_eq_some_iff]
    constructor
    · rintro ⟨c, first, reports⟩
      exact ⟨c, first, reports, reports.kind⟩
    · rintro ⟨c, first, reports, -⟩
      exact ⟨c, first, reports⟩
  · intro r refused
    rw [e.create_refused refused]
    exact ⟨rfl, rfl⟩
  · intro d' accepted
    obtain ⟨-, rfl⟩ := accept_ok_iff.mp accepted
    exact ⟨rfl, rfl, rfl, rfl, firstOccurrences_normalCodes d.types⟩

/-- Where digits, codes and template are all wrong, the digits are reported; blank and repeated
codes alone are no fault. -/
theorem accepted_or_reported_serial :
    let sound : Draft :=
      { name := " Serial ", template := "\x7bseq\x7d", digits := 3, department := none,
        types := [" T", "", "B ", "T"], window := ⟨⟨2025, 1, 1, by decide⟩, none⟩, priority := 1 }
    let wrong : Draft := { sound with digits := 0, types := [" "], template := "\x7b" }
    (∃ d', sound.accept = .ok d' ∧ FirstOccurrences ["T", "B", "T"] d'.types) ∧
      wrong.accept = .error .digitsOutOfRange ∧
      (Engine.memory.create wrong .empty).state = .empty := by
  intro sound wrong
  obtain ⟨accepted, -, -, kept⟩ := accepted_or_reported .memory .empty sound
  obtain ⟨-, reported, untouched, -⟩ := accepted_or_reported .memory .empty wrong
  obtain ⟨d', hd'⟩ := accepted.mpr (refusal?_eq_none_iff.mp (by decide +kernel))
  have codes : written sound.types = ["T", "B", "T"] := by decide +kernel
  have first : Condition.FirstUnmet wrong .digits := by
    refine ⟨by simp [Condition.Met, wrong], [.name, .template], [.types, .period, .parsed], rfl, ?_⟩
    intro b hb
    rcases List.mem_cons.mp hb with rfl | hb
    · exact (by decide +kernel : Text.allBlank wrong.name = false)
    · obtain rfl := List.mem_singleton.mp hb
      exact (by decide +kernel : Text.allBlank wrong.template = false)
  have refused := (reported .digitsOutOfRange).mpr ⟨.digits, first, .digits, rfl⟩
  exact ⟨⟨d', hd', codes ▸ (kept d' hd').2.2.2.2⟩, refused, (untouched _ refused).2⟩

end DocNumber.Store
