import DocNumber.Issuing.Service
import DocNumber.Proofs.Rule.Draft
import DocNumber.Proofs.Template.Limit
import DocNumber.Store.Table

/-!
Rules that can hand out numbers: their template can be read and their width is in range. Every
draft that is accepted makes one, and its limit is at least nine and fits a word.
-/

namespace DocNumber

structure Rule.Usable (r : Rule) : Prop where
  template : ∃ ts, Template.parse r.template.toList = .ok ts
  width : 1 ≤ r.width ∧ r.width ≤ Template.maxWidth

namespace Draft

theorem usable_of_accept {d d' : Draft} (h : d.accept = .ok d') (id : Int) :
    (Rule.ofDraft id d').Usable := by
  obtain ⟨sound, rfl⟩ := sound_of_accept h
  exact ⟨sound .parsed, sound .digits⟩

end Draft

namespace Rule

theorem Usable.wide {r : Rule} (h : r.Usable) (ts : List Template.Token) :
    Template.Wide r.width ts :=
  Template.wide_of_nonneg (Int.le_trans Int.one_nonneg h.width.1) ts

theorem Usable.limit_of_parse {r : Rule} (h : r.Usable) {ts : List Template.Token}
    (parsed : Template.parse r.template.toList = .ok ts) :
    r.limit = .ok (Template.limitOf r.width ts) :=
  Template.sequenceLimit_of_parse parsed
    (Template.narrowest_nonneg (Int.le_trans Int.one_nonneg h.width.1))

theorem Usable.limit {r : Rule} (h : r.Usable) : ∃ limit, r.limit = .ok limit := by
  obtain ⟨ts, hts⟩ := h.template
  exact ⟨_, h.limit_of_parse hts⟩

theorem Usable.limit_bounds {r : Rule} (h : r.Usable) {limit : Nat} (hl : r.limit = .ok limit) :
    9 ≤ limit ∧ limit < 10 ^ Template.maxWidth := by
  obtain ⟨ts, hts⟩ := h.template
  rw [h.limit_of_parse hts, Template.limitOf_eq, Except.ok.injEq] at hl
  have proper := Template.parse_proper hts
  have pos := Template.one_le_narrowest proper h.width.1
  have le := Template.narrowest_le_maxWidth proper h.width.2
  have lower : 10 ^ 1 ≤ 10 ^ (Template.narrowest r.width ts).toNat :=
    Nat.pow_le_pow_right (by omega) (by omega)
  have upper : 10 ^ (Template.narrowest r.width ts).toNat ≤ 10 ^ Template.maxWidth :=
    Nat.pow_le_pow_right (by omega) (by omega)
  omega

theorem Usable.fits_limit {r : Rule} (h : r.Usable) {limit : Nat} (hl : r.limit = .ok limit) :
    Store.Table.fits limit = true := by
  have bound : 10 ^ Template.maxWidth < Decimal.wordBound := by decide
  have := (h.limit_bounds hl).2
  simp only [Store.Table.fits, Bool.and_eq_true, decide_eq_true_eq]
  omega

end Rule

end DocNumber
