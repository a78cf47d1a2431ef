import Mathlib.Algebra.Order.Field.Rat
import Mathlib.Algebra.Order.Field.Power
import Mathlib.Tactic.Linarith
import Mathlib.Tactic.Positivity
import Mathlib.Tactic.Ring
import DocNumber.Decimal.Binary64

/-!
How far rounding can go. The number that a ratio rounds to is less than one unit in its last place
away from it.
-/

namespace DocNumber.Decimal.Binary64

theorem div_bounds (num : Nat) {den : Nat} (hd : 0 < den) :
    ((num / den : Nat) : ℚ) ≤ num / den ∧ (num : ℚ) / den < (num / den : Nat) + 1 := by
  have pos : (0 : ℚ) < den := by exact_mod_cast hd
  constructor
  · rw [le_div_iff₀ pos]
    exact_mod_cast Nat.div_mul_le_self num den
  · rw [div_lt_iff₀ pos]
    rw [mul_comm]
    exact_mod_cast Nat.lt_mul_div_succ num hd

theorem ratio_pos (m : Nat) (e : Int) : 0 < (ratio m e).2 := by
  cases e with
  | ofNat k => exact Nat.one_pos
  | negSucc k => exact Nat.pow_pos Nat.two_pos

theorem ratio_div (m : Nat) (e : Int) : ((ratio m e).1 : ℚ) / (ratio m e).2 = m * 2 ^ e := by
  cases e with
  | ofNat k => simp [ratio, twoPower]
  | negSucc k => simp [ratio, twoPower, zpow_negSucc, div_eq_mul_inv]

theorem roundHalfEven_near (num : Nat) {den : Nat} (hd : 0 < den) :
    |(roundHalfEven num den : ℚ) - num / den| ≤ 1 := by
  obtain ⟨low, high⟩ := div_bounds num hd
  unfold roundHalfEven
  dsimp only
  split
  · rw [abs_le]
    constructor <;> linarith
  · push_cast
    rw [abs_le]
    constructor <;> linarith

theorem scaled_near (num : Nat) {den : Nat} (hd : 0 < den) (e : Int) :
    |(scaled num den e : ℚ) * 2 ^ e - num / den| ≤ 2 ^ e := by
  have unit : (0 : ℚ) < 2 ^ e := by positivity
  have near : |(scaled num den e : ℚ) - num / den / 2 ^ e| ≤ 1 := by
    cases e with
    | ofNat k =>
      have pos : 0 < den * twoPower k := Nat.mul_pos hd (Nat.pow_pos Nat.two_pos)
      simpa [scaled, twoPower, div_div] using roundHalfEven_near num pos
    | negSucc k =>
      have near := roundHalfEven_near (num * twoPower (k + 1)) hd
      simpa [scaled, twoPower, zpow_negSucc, div_mul_eq_mul_div] using near
  calc |(scaled num den e : ℚ) * 2 ^ e - num / den|
      = |(scaled num den e : ℚ) - num / den / 2 ^ e| * 2 ^ e := by
        rw [← abs_of_pos unit, ← abs_mul, abs_of_pos unit, sub_mul,
          div_mul_cancel₀ _ unit.ne']
    _ ≤ 1 * 2 ^ e := mul_le_mul_of_nonneg_right near unit.le
    _ = 2 ^ e := one_mul _

/-- A ratio is rounded to a number within a unit of its last place, and that place is 51 binary
digits below the leading one or further. -/
theorem ofRatio_near {negative s : Bool} {num den m : Nat} {e : Int} (hd : 0 < den)
    (h : ofRatio negative num den = .finite s m e) :
    s = negative ∧ |(m : ℚ) * 2 ^ e - num / den| ≤ 2 ^ e ∧
      e ≤ max ((num.log2 : Int) - den.log2 - 51) (leastExponent + 1) := by
  unfold ofRatio at h
  dsimp only at h
  generalize guess_eq : (num.log2 : Int) - den.log2 - 52 = guess at h
  have bound : max (if scaled num den guess < twoPower 52 then guess - 1 else guess)
      leastExponent ≤ max guess leastExponent := by
    split <;> omega
  generalize max (if scaled num den guess < twoPower 52 then guess - 1 else guess) leastExponent =
    place at h bound
  have near := scaled_near num hd place
  split at h
  · rename_i carried
    have doubled : (2 : ℚ) ^ (place + 1) = 2 ^ place * 2 := zpow_add_one₀ two_ne_zero place
    have unit : (0 : ℚ) < 2 ^ place := by positivity
    have same : (scaled num den place : ℚ) * 2 ^ place = twoPower 52 * 2 ^ (place + 1) := by
      rw [beq_iff_eq.mp carried, doubled]
      norm_num [twoPower]
      ring
    split at h
    · cases h
    · obtain ⟨rfl, rfl, rfl⟩ := Binary64.finite.inj h
      rw [same] at near
      refine ⟨rfl, near.trans ?_, ?_⟩
      · rw [doubled]
        linarith
      · dsimp only
        omega
  · split at h
    · cases h
    · obtain ⟨rfl, rfl, rfl⟩ := Binary64.finite.inj h
      exact ⟨rfl, near, by dsimp only; omega⟩

/-- A numeral of fifteen digits with one of them after the point, or none, is rounded by less than
a quarter. -/
theorem ofDecimal_near {negative s : Bool} {digits k m : Nat} {e : Int} (some : 0 < digits)
    (few : digits < 2 ^ 50) (hk : k ≤ 1)
    (h : ofDecimal negative digits (-(k : Int)) = .finite s m e) :
    s = negative ∧ |(m : ℚ) * 2 ^ e - digits / 10 ^ k| ≤ 1 / 4 := by
  have places : digits.log2 < 50 := (Nat.log2_lt some.ne').mpr few
  have rounds : ofDecimal negative digits (-(k : Int)) = ofRatio negative digits (tenPower k) := by
    unfold ofDecimal
    rw [if_neg (by simpa using some.ne'), if_neg (by omega), if_neg (by omega)]
    obtain rfl | rfl : k = 0 ∨ k = 1 := by omega
    · simp [tenPower]
    · rfl
  rw [rounds] at h
  obtain ⟨sign, near, place⟩ := ofRatio_near (Nat.pow_pos (by decide)) h
  have place : e ≤ -2 := by
    simp only [leastExponent] at place
    omega
  have quarter : (2 : ℚ) ^ e ≤ 2 ^ (-2 : Int) := zpow_le_zpow_right₀ one_le_two place
  refine ⟨sign, ?_⟩
  calc |(m : ℚ) * 2 ^ e - digits / 10 ^ k|
      = |(m : ℚ) * 2 ^ e - digits / tenPower k| := by simp [tenPower]
    _ ≤ 2 ^ e := near
    _ ≤ 1 / 4 := by norm_num at quarter ⊢; exact quarter

end DocNumber.Decimal.Binary64
