import Mathlib.Data.Nat.Cast.Field
import Mathlib.Tactic.FieldSimp
import DocNumber.Decimal.Shortest
import DocNumber.Proofs.Decimal.Rounding
import DocNumber.Proofs.Text.Digits

/-!
What the shortest text of a number says about the number. Below a power of two that is a fraction
it is less than a quarter away; of a whole number that ends in zeros it ends in zeros too.
-/

namespace DocNumber.Decimal

open Text

/-! ## Numerals -/

def Numeral.value (n : Numeral) : ℚ :=
  n.digits * 10 ^ n.power

theorem Numeral.ratio_pos (n : Numeral) : 0 < n.ratio.2 := by
  unfold Numeral.ratio
  split
  · exact Nat.one_pos
  · exact Nat.pow_pos (by decide)

theorem Numeral.ratio_div (n : Numeral) : (n.ratio.1 : ℚ) / n.ratio.2 = n.value := by
  obtain ⟨digits, power⟩ := n
  cases power with
  | ofNat k => simp [Numeral.ratio, Numeral.value, tenPower]
  | negSucc k => simp [Numeral.ratio, Numeral.value, tenPower, zpow_negSucc, div_eq_mul_inv]

/-- Zeros at the end of the notation are powers of ten in the number. -/
theorem tenPower_dvd (n : Nat) (pos : 0 < n) :
    tenPower ((digits n).reverse.takeWhile (· == '0')).length ∣ n := by
  induction n using Nat.strongRecOn with
  | ind n ih =>
    by_cases zero : digitChar n = '0'
    · have last : n % 10 = 0 := by
        rw [← digitValue_digitChar, zero]
        rfl
      have shorter := ih (n / 10) (by omega) (by omega)
      have large : ¬n < 10 := by omega
      rw [digits, if_neg large, List.reverse_append, List.reverse_singleton,
        List.singleton_append, zero, List.takeWhile_cons_of_pos (by simp), List.length_cons]
      have whole : n / 10 * 10 = n := by omega
      have := Nat.mul_dvd_mul_right shorter 10
      rwa [whole] at this
    · have shape : ∃ front, (digits n).reverse = digitChar n :: front := by
        unfold digits
        split
        · exact ⟨[], rfl⟩
        · exact ⟨(digits (n / 10)).reverse, by simp⟩
      obtain ⟨front, shape⟩ := shape
      rw [shape, List.takeWhile_cons_of_neg (by simpa using zero)]
      exact one_dvd n

theorem dropZeros_value (n : Numeral) : (dropZeros n).value = n.value := by
  obtain ⟨digits, power⟩ := n
  unfold dropZeros
  dsimp only
  split
  · rfl
  · rename_i some
    have divides := tenPower_dvd digits (Nat.pos_of_ne_zero (by simpa using some))
    generalize ((Text.digits digits).reverse.takeWhile (· == '0')).length = trailing at divides
    have ten : (tenPower trailing : ℚ) = 10 ^ trailing := by simp [tenPower]
    simp only [Numeral.value]
    rw [Nat.cast_div divides (by simp [tenPower]), zpow_add₀ (by norm_num), ten, zpow_natCast]
    field_simp

theorem le_dropZeros_power (n : Numeral) : n.power ≤ (dropZeros n).power := by
  unfold dropZeros
  dsimp only
  split
  · exact le_rfl
  · dsimp only
    omega

/-! ## Intervals -/

variable {i : Interval} {m : Nat} {e : Int}

theorem around_den_pos (m : Nat) (e : Int) : 0 < (Interval.around m e).den :=
  Binary64.ratio_pos 1 (e - 2)

/-- The interval counts in quarters of a unit of the last place. -/
theorem around_unit (e : Int) :
    ((Binary64.ratio 1 (e - 2)).1 : ℚ) / (Binary64.ratio 1 (e - 2)).2 = 2 ^ e / 4 := by
  rw [Binary64.ratio_div, zpow_sub₀ two_ne_zero]
  norm_num

theorem around_centre (m : Nat) (e : Int) :
    ((Interval.around m e).centre : ℚ) / (Interval.around m e).den = m * 2 ^ e := by
  simp only [Interval.around]
  push_cast
  rw [mul_div_assoc, around_unit]
  ring

theorem around_high (m : Nat) (e : Int) :
    ((Interval.around m e).high : ℚ) / (Interval.around m e).den = m * 2 ^ e + 2 ^ e / 2 := by
  simp only [Interval.around]
  push_cast
  rw [mul_div_assoc, around_unit]
  ring

theorem around_low (m : Nat) (e : Int) :
    m * 2 ^ e - 2 ^ e / 2 ≤ ((Interval.around m e).low : ℚ) / (Interval.around m e).den := by
  have below (narrow : Bool) :
      4 * (m : ℚ) - 2 ≤ ((if narrow = true then 4 * m - 1 else 4 * m - 2 : Nat) : ℚ) := by
    have step : 4 * m ≤ (if narrow = true then 4 * m - 1 else 4 * m - 2) + 2 := by
      split <;> omega
    rw [sub_le_iff_le_add]
    exact_mod_cast step
  have unit : (0 : ℚ) ≤ 2 ^ e / 4 := by positivity
  simp only [Interval.around]
  rw [Nat.cast_mul, mul_div_assoc, around_unit]
  calc m * 2 ^ e - 2 ^ e / 2 = (4 * (m : ℚ) - 2) * (2 ^ e / 4) := by ring
    _ ≤ _ := mul_le_mul_of_nonneg_right (below _) unit

/-- What lies in the interval is half a unit of the last place away at most. -/
theorem holds_near {num den : Nat} (hd : 0 < den)
    (h : (Interval.around m e).holds num den = true) :
    |(num : ℚ) / den - m * 2 ^ e| ≤ 2 ^ e / 2 := by
  have low := around_low m e
  have high := around_high m e
  have pos : (0 : ℚ) < (Interval.around m e).den := by exact_mod_cast around_den_pos m e
  have pos' : (0 : ℚ) < den := by exact_mod_cast hd
  generalize Interval.around m e = i at h low high pos
  obtain ⟨above, below⟩ : i.low * den ≤ num * i.den ∧ num * i.den ≤ i.high * den := by
    simp only [Interval.holds] at h
    split at h
    · simpa using h
    · simp only [Bool.and_eq_true, decide_eq_true_eq] at h
      exact ⟨h.1.le, h.2.le⟩
  have above : (i.low : ℚ) / i.den ≤ num / den := by
    rw [div_le_div_iff₀ pos pos']
    exact_mod_cast above
  have below : (num : ℚ) / den ≤ i.high / i.den := by
    rw [div_le_div_iff₀ pos' pos]
    exact_mod_cast below
  rw [abs_le]
  constructor <;> linarith

theorem holdsNumeral_near {n : Numeral} (h : (Interval.around m e).holdsNumeral n = true) :
    |n.value - m * 2 ^ e| ≤ 2 ^ e / 2 := by
  have inside : (Interval.around m e).holds n.ratio.1 n.ratio.2 = true := h
  rw [← n.ratio_div]
  exact holds_near n.ratio_pos inside

theorem onGrid_eq_some {power : Int} {n : Numeral} (h : i.onGrid power = some n) :
    n.power = power ∧ i.holdsNumeral n = true := by
  unfold Interval.onGrid at h
  dsimp only at h
  split at h
  · rename_i below above
    split at h
    · obtain rfl := Option.some.inj h
      exact ⟨rfl, above⟩
    · obtain rfl := Option.some.inj h
      exact ⟨rfl, below⟩
  · rename_i below _
    obtain rfl := Option.some.inj h
    exact ⟨rfl, below⟩
  · rename_i above
    obtain rfl := Option.some.inj h
    exact ⟨rfl, above⟩
  · cases h

theorem firstGrid_holds {k : Nat} {power : Int} {n : Numeral} (h : i.firstGrid k power = some n) :
    i.holdsNumeral n = true := by
  induction k generalizing power with
  | zero => cases h
  | succ k ih =>
    unfold Interval.firstGrid at h
    split at h
    · rename_i found
      obtain rfl := Option.some.inj h
      exact (onGrid_eq_some found).2
    · exact ih h

/-- A grid that has a numeral inside is not passed over. -/
theorem firstGrid_of_onGrid {k : Nat} {power fine : Int} (found : i.onGrid fine ≠ none)
    (coarse : fine ≤ power) (tried : power < fine + k) :
    ∃ n, i.firstGrid k power = some n ∧ fine ≤ n.power := by
  induction k generalizing power with
  | zero => omega
  | succ k ih =>
    unfold Interval.firstGrid
    cases hg : i.onGrid power with
    | some n =>
      exact ⟨n, rfl, by rw [(onGrid_eq_some hg).1]; exact coarse⟩
    | none =>
      have other : power ≠ fine := by
        rintro rfl
        exact found hg
      exact ih (by omega) (by omega)

theorem floorAt_bounds (pos : 0 < i.den) (power : Int) :
    i.floorAt power * 10 ^ power ≤ (i.centre : ℚ) / i.den ∧
      (i.centre : ℚ) / i.den < (i.floorAt power + 1) * 10 ^ power := by
  have unit : (0 : ℚ) < 10 ^ power := by positivity
  have scaled : (i.floorAt power : ℚ) ≤ i.centre / i.den / 10 ^ power ∧
      (i.centre : ℚ) / i.den / 10 ^ power < i.floorAt power + 1 := by
    cases power with
    | ofNat k =>
      have pos : 0 < i.den * tenPower k := Nat.mul_pos pos (Nat.pow_pos (by decide))
      simpa [Interval.floorAt, tenPower, div_div] using Binary64.div_bounds i.centre pos
    | negSucc k =>
      simpa [Interval.floorAt, tenPower, zpow_negSucc, div_mul_eq_mul_div] using
        Binary64.div_bounds (i.centre * tenPower (k + 1)) pos
  rwa [le_div_iff₀ unit, div_lt_iff₀ unit] at scaled

/-- The digits of a number, cut off at a place, are less than a unit of that place away. -/
theorem floorAt_near (m : Nat) (e power : Int) :
    |Numeral.value ⟨(Interval.around m e).floorAt power, power⟩ - m * 2 ^ e| ≤ 10 ^ power := by
  obtain ⟨low, high⟩ := floorAt_bounds (around_den_pos m e) power
  rw [around_centre] at low high
  rw [Numeral.value, abs_le]
  constructor <;> linarith

/-! ## The leading digit -/

theorem pow_le_of_length_digits {n : Nat} (pos : 0 < n) : 10 ^ ((digits n).length - 1) ≤ n := by
  by_contra small
  by_cases one : (digits n).length - 1 = 0
  · rw [one] at small
    omega
  · have := length_digits_le (Nat.one_le_iff_ne_zero.mpr one) (Nat.lt_of_not_le small)
    omega

theorem leadingPower_le {num den : Nat} (pos : 0 < den) (large : den ≤ num) :
    (10 : ℚ) ^ leadingPower num den ≤ num / den := by
  have whole : 0 < num / den := Nat.div_pos large pos
  have some := List.length_pos_iff.mpr (digits_ne_nil (num / den))
  have power : leadingPower num den = ((digits (num / den)).length - 1 : Nat) := by
    rw [leadingPower, if_pos large]
    omega
  rw [power, zpow_natCast]
  have digits : (10 : ℚ) ^ ((digits (num / den)).length - 1) ≤ (num / den : Nat) := by
    exact_mod_cast pow_le_of_length_digits whole
  exact digits.trans (Binary64.div_bounds num pos).1

theorem leadingPower_lt {num den w : Nat} (hw : 1 ≤ w) (bound : num / den < 10 ^ w) :
    leadingPower num den < w := by
  unfold leadingPower
  split
  · have := length_digits_le hw bound
    omega
  · omega

/-! ## The shortest numeral -/

/-- Below the point the shortest text of a number is less than a quarter away from it. -/
theorem shortest_near (he : e < 0) (bound : (shortest m e).value < 10 ^ 8) :
    |(shortest m e).value - m * 2 ^ e| ≤ 1 / 4 := by
  have half : (2 : ℚ) ^ e / 2 ≤ 1 / 4 := by
    have := zpow_le_zpow_right₀ (one_le_two : (1 : ℚ) ≤ 2) (show e ≤ -1 by omega)
    norm_num at this
    linarith
  have pos := around_den_pos m e
  have centre := around_centre m e
  unfold shortest at bound ⊢
  dsimp only at bound ⊢
  rw [dropZeros_value] at bound ⊢
  generalize hs : leadingPower _ _ = start at bound ⊢
  cases hg : (Interval.around m e).firstGrid 18 (start + 1) with
  | some n => exact (holdsNumeral_near (firstGrid_holds hg)).trans half
  | none =>
    -- The search failed, so the digits are those of the number itself, cut off.
    rw [hg, Option.getD_none] at bound
    rw [Option.getD_none]
    have near := floorAt_near m e (start - 17)
    obtain ⟨low, high⟩ := abs_le.mp near
    have grid : (10 : ℚ) ^ start = 10 ^ 17 * 10 ^ (start - 17) := by
      rw [zpow_sub₀ (by norm_num), zpow_ofNat]
      field_simp
    have leading : start ≤ 8 := by
      by_contra far
      have fine := zpow_le_zpow_right₀ (by norm_num : (1 : ℚ) ≤ 10)
        (show (-8 : Int) ≤ start - 17 by omega)
      have large : (Interval.around m e).den ≤ (Interval.around m e).centre := by
        by_contra small
        rw [leadingPower, if_neg small] at hs
        omega
      have top := leadingPower_le pos large
      rw [hs, centre, grid] at top
      norm_num at fine top bound
      linarith
    have step := zpow_le_zpow_right₀ (by norm_num : (1 : ℚ) ≤ 10)
      (show start - 17 ≤ -9 by omega)
    norm_num at step
    exact near.trans (step.trans (by norm_num))

theorem around_strict (hm : 0 < m) (e : Int) :
    (Interval.around m e).low < (Interval.around m e).centre ∧
      (Interval.around m e).centre < (Interval.around m e).high := by
  have scale : 0 < (Binary64.ratio 1 (e - 2)).1 := by
    unfold Binary64.ratio
    split
    · exact Nat.mul_pos Nat.one_pos (Nat.pow_pos Nat.two_pos)
    · exact Nat.one_pos
  simp only [Interval.around]
  constructor
  · apply Nat.mul_lt_mul_of_pos_right _ scale
    split <;> omega
  · exact Nat.mul_lt_mul_of_pos_right (by omega) scale

/-- A grid that the number itself lies on has a numeral inside. -/
theorem onGrid_centre {k q : Nat} (pos : 0 < i.den) (inside : i.low < i.centre ∧ i.centre < i.high)
    (whole : i.centre = q * 10 ^ k * i.den) : i.onGrid k ≠ none := by
  have floor : i.floorAt k = q := by
    change i.centre / (i.den * 10 ^ k) = q
    rw [whole, Nat.mul_assoc, Nat.mul_comm (10 ^ k), Nat.mul_div_cancel]
    exact Nat.mul_pos pos (Nat.pow_pos (by decide))
  have held : i.holdsNumeral ⟨i.floorAt k, k⟩ = true := by
    change i.holds (i.floorAt k * 10 ^ k) 1 = true
    rw [floor]
    simp only [Interval.holds, ← whole, Nat.mul_one]
    split
    · simp [inside.1.le, inside.2.le]
    · simp [inside.1, inside.2]
  unfold Interval.onGrid
  dsimp only
  rw [held]
  cases i.holdsNumeral ⟨i.floorAt k + 1, k⟩ with
  | true =>
    dsimp only
    split <;> simp
  | false => simp

/-- A whole number that ends in two zeros is written with two zeros at least. -/
theorem shortest_hundred {k : Nat} (hm : 0 < m) (hundred : 100 ∣ m * 2 ^ k)
    (bound : m * 2 ^ k < 10 ^ 19) : 2 ≤ (shortest m k).power := by
  have pos := around_den_pos m k
  have strict := around_strict hm k
  have whole : (Interval.around m k).centre = m * 2 ^ k * (Interval.around m k).den := by
    have centre := around_centre m k
    rw [div_eq_iff (by exact_mod_cast pos.ne'), zpow_natCast] at centre
    exact_mod_cast centre
  obtain ⟨q, hq⟩ := hundred
  have some : 0 < m * 2 ^ k := Nat.mul_pos hm (Nat.pow_pos Nat.two_pos)
  generalize hs : leadingPower (Interval.around m k).centre (Interval.around m k).den = start
  have quotient : (Interval.around m k).centre / (Interval.around m k).den = m * 2 ^ k := by
    rw [whole, Nat.mul_div_cancel _ pos]
  have few : start < 19 := by
    rw [← hs]
    exact leadingPower_lt (by decide) (by rwa [quotient])
  have many : 1 ≤ start := by
    have large : (Interval.around m k).den ≤ (Interval.around m k).centre := by
      rw [whole]
      exact Nat.le_mul_of_pos_left _ some
    have wide := lt_pow_length_digits (m * 2 ^ k)
    rw [leadingPower, if_pos large, quotient] at hs
    by_contra short
    have := Nat.pow_le_pow_right (show 0 < 10 by decide)
      (show (digits (m * 2 ^ k)).length ≤ 1 by omega)
    omega
  have hundreds : (Interval.around m k).centre = q * 10 ^ 2 * (Interval.around m k).den := by
    rw [whole, hq]
    ring
  obtain ⟨n, found, fine⟩ := firstGrid_of_onGrid (k := 18) (onGrid_centre pos strict hundreds)
    (show (2 : Nat) ≤ start + 1 by omega) (by omega)
  have power := le_dropZeros_power n
  have same : shortest m k = dropZeros n := by
    simp only [shortest, hs, found, Option.getD_some]
  rw [same]
  omega

/-! ## Its text -/

section

variable {n : Numeral} {ds : List Char} {k : Nat}

/-- A numeral with a point among its digits. -/
theorem value_pointed (worth : value ds = n.digits) (inside : k < ds.length)
    (power : n.power = (k : Int) - ds.length) :
    n.value = value (ds.take k ++ ds.drop k) / 10 ^ (ds.drop k).length := by
  have unit : ((ds.drop k).length : Int) = ds.length - k := by
    rw [List.length_drop]
    omega
  rw [List.take_append_drop, worth, Numeral.value, power, ← zpow_natCast, unit, div_eq_mul_inv,
    ← zpow_neg, neg_sub]

/-- A whole numeral, with zeros up to the point and one after it. -/
theorem value_filled (worth : value ds = n.digits) (power : n.power = k) :
    n.value = value (ds ++ List.replicate k '0' ++ ['0']) / 10 ^ 1 := by
  have digits : value (ds ++ List.replicate k '0' ++ ['0']) = n.digits * 10 ^ k * 10 := by
    rw [value_append, value_append, value_zeros, worth, List.length_replicate]
    simp [value, digitValue]
  rw [digits, Numeral.value, power, zpow_natCast]
  push_cast
  simp

end

/-- The text of a number has a point among digits, and then says what the numeral is worth, or it
has something else than a digit in the second place. -/
theorem positive_cases (m : Nat) (e : Int) :
    (∃ a b rest, positive m e = a :: b :: rest ∧ isDigit b = false) ∨
      ∃ front back, positive m e = front ++ '.' :: back ∧ front.all isDigit = true ∧
        back.all isDigit = true ∧ back ≠ [] ∧
        (shortest m e).value = value (front ++ back) / 10 ^ back.length := by
  unfold positive
  generalize shortest m e = n
  dsimp only
  have all := all_isDigit_digits n.digits
  have worth := value_digits n.digits
  have some := List.length_pos_iff.mpr (digits_ne_nil n.digits)
  generalize digits n.digits = ds at all worth some
  split
  · split
    · exact .inl ⟨_, _, _, rfl, rfl⟩
    · right
      generalize hw : (n.power + (ds.length : Int) - 1).toNat + 1 = whole
      have power : n.power = (whole : Int) - ds.length := by omega
      by_cases long : whole < ds.length
      · have zeros : whole - ds.length = 0 := by omega
        have back : ds.drop whole ≠ [] := by simpa using long
        refine ⟨ds.take whole, ds.drop whole, by simp [zeros, back], ?_, ?_, back,
          value_pointed worth long power⟩
        · exact List.all_eq_true.mpr fun c hc =>
            List.all_eq_true.mp all c (List.mem_of_mem_take hc)
        · exact List.all_eq_true.mpr fun c hc =>
            List.all_eq_true.mp all c (List.mem_of_mem_drop hc)
      · have cut : ds.take whole = ds := List.take_of_length_le (by omega)
        have none : ds.drop whole = [] := List.drop_of_length_le (by omega)
        have zeros : n.power = ((whole - ds.length : Nat) : Int) := by omega
        refine ⟨ds ++ List.replicate (whole - ds.length) '0', ['0'], by simp [cut, none], ?_, rfl,
          by simp, value_filled worth zeros⟩
        simp only [List.all_append, all, Bool.true_and, List.all_replicate]
        simp [isDigit]
  · left
    obtain ⟨d, ds, rfl⟩ := List.exists_cons_of_length_pos some
    cases ds with
    | nil => exact ⟨_, _, _, rfl, rfl⟩
    | cons => exact ⟨_, _, _, rfl, rfl⟩

end DocNumber.Decimal
