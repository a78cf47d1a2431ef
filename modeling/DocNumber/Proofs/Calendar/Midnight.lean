import Mathlib.Tactic.FieldSimp
import DocNumber.Calendar.Instant
import DocNumber.Proofs.Calendar.Reading
import DocNumber.Proofs.Decimal.Rounding

/-!
Counts of seconds that are read as days. A count is accepted only at midnight, so a date without
its dashes is never taken for the count of that same day.
-/

namespace DocNumber.Calendar

open Decimal

/-- The midnight, counted in seconds since 1970, with which the day begins. -/
structure Midnight (seconds : Int) (d : Day) : Prop where
  whole : seconds % 86400 = 0
  day : Day.ofOrdinal? ((seconds / 86400 + 719528).toNat - 365) = some d

variable {d : Day} {count : Int} {millionths : Nat}

theorem fromCount_midnight (small : count.natAbs ≤ 20000000000)
    (h : fromCount count millionths = .ok d) :
    ∃ seconds, seconds * 1000000 = count * 1000000 + millionths ∧ Midnight seconds d := by
  have few : ¬count.natAbs > millisecondsFrom.toNat := by
    simpa [millisecondsFrom] using small
  simp only [fromCount, few, ↓reduceIte] at h
  split at h
  · cases h
  · split at h
    · cases h
    · rename_i accepted
      rw [not_or, not_not, not_not, Int.fmod_eq_emod_of_nonneg _ (by decide)] at accepted
      split at h
      · cases h
      · split at h
        · rename_i day found
          obtain rfl := Except.ok.inj h
          rw [Int.fdiv_eq_ediv_of_nonneg _ (by decide)] at found
          refine ⟨_, ?_, accepted.2, found⟩
          omega
        · cases h

/-- Seconds or milliseconds, a whole count falls on a midnight. -/
theorem fromCount_whole (h : fromCount count 0 = .ok d) : count % 86400 = 0 := by
  by_cases small : count.natAbs ≤ 20000000000
  · obtain ⟨seconds, same, midnight⟩ := fromCount_midnight small h
    have := midnight.whole
    omega
  · have many : count.natAbs > millisecondsFrom.toNat := by
      simpa [millisecondsFrom] using small
    simp only [fromCount, many, ↓reduceIte] at h
    split at h
    · cases h
    · split at h
      · cases h
      · rename_i accepted
        rw [not_or, not_not, not_not, Int.fmod_eq_emod_of_nonneg _ (by decide),
          Int.fdiv_eq_ediv_of_nonneg _ (by decide), Int.fmod_eq_emod_of_nonneg _ (by decide)]
          at accepted
        omega

theorem ofInt_midnight {n : Nat} (small : n ≤ 20000000000) (h : ofInt n = .ok d) :
    Midnight n d := by
  unfold ofInt at h
  split at h
  · obtain ⟨seconds, same, midnight⟩ := fromCount_midnight (by omega) h
    obtain rfl : seconds = n := by omega
    exact midnight
  · cases h

theorem toMillionths_near (num : Nat) {den : Nat} (pos : 0 < den) :
    |(toMillionths num den : ℚ) - num / den * 1000000| ≤ 1 / 2 := by
  have unit : (0 : ℚ) < den := by exact_mod_cast pos
  obtain ⟨low, high⟩ := Binary64.div_bounds (2 * num * 1000000 + den)
    (Nat.mul_pos Nat.two_pos pos)
  have centre : ((2 * num * 1000000 + den : Nat) : ℚ) / (2 * den : Nat) =
      num / den * 1000000 + 1 / 2 := by
    push_cast
    field_simp
  rw [centre] at low high
  rw [toMillionths, abs_le]
  constructor <;> linarith

/-- A number that is read as a day is a midnight, up to half a millionth of a second. -/
theorem ofReal_midnight {m : Nat} {e : Int} (small : (m : ℚ) * 2 ^ e < 20000000000)
    (h : ofReal (.finite false m e) = .ok d) :
    ∃ seconds : Int, |(seconds : ℚ) - m * 2 ^ e| ≤ 1 / 1000000 ∧ Midnight seconds d := by
  have pos := Binary64.ratio_pos m e
  have worth := Binary64.ratio_div m e
  simp only [ofReal, Bool.false_eq_true, ↓reduceIte] at h
  generalize (Binary64.ratio m e).1 = num at worth h
  generalize (Binary64.ratio m e).2 = den at pos worth h
  have split : (num : ℚ) / den = (num / den : Nat) + (num % den : Nat) / den := by
    have unit : (den : ℚ) ≠ 0 := by exact_mod_cast pos.ne'
    have parts : (num : ℚ) = den * (num / den : Nat) + (num % den : Nat) := by
      exact_mod_cast (Nat.div_add_mod num den).symm
    rw [div_eq_iff unit, add_mul, div_mul_cancel₀ _ unit, mul_comm]
    exact parts
  have near := toMillionths_near (num % den) pos
  have low := (Binary64.div_bounds num pos).1
  rw [worth] at low
  rw [← worth, split]
  generalize num / den = whole at low h
  generalize num % den = part at near h
  split at h
  · cases h
  · have few : whole ≤ 20000000000 := by exact_mod_cast (low.trans_lt small).le
    obtain ⟨seconds, same, midnight⟩ := fromCount_midnight (by omega) h
    refine ⟨seconds, ?_, midnight⟩
    have same := congrArg (Int.cast : Int → ℚ) same
    push_cast at same
    rw [abs_le] at near ⊢
    constructor <;> linarith

/-- A whole number that is read as a day is a midnight. -/
theorem ofReal_whole {m k : Nat} (h : ofReal (.finite false m k) = .ok d) :
    m * 2 ^ k < 2 ^ 63 ∧ m * 2 ^ k % 86400 = 0 := by
  have ratio : Binary64.ratio m k = (m * 2 ^ k, 1) := rfl
  simp only [ofReal, Bool.false_eq_true, ↓reduceIte, ratio, Nat.div_one, Nat.mod_one] at h
  split at h
  · cases h
  · rename_i bound
    have none : toMillionths 0 1 = 0 := rfl
    rw [none] at h
    have whole := fromCount_whole h
    have word : wordBound = 2 ^ 63 := rfl
    omega

/-- The year that a count of days falls in. -/
theorem ofOrdinal?_year {n : Nat} (h : Day.ofOrdinal? n = some d) :
    Day.daysBefore d.year < n ∧ n ≤ Day.daysBefore d.year + 366 := by
  unfold Day.ofOrdinal? at h
  split at h
  · cases h
  · dsimp only at h
    obtain ⟨year, -, -⟩ := Day.of?_eq_some h
    generalize eras_eq : (n - 1) / 146097 = eras at year
    generalize centuries_eq : min 3 ((n - 1) % 146097 / 36524) = centuries at year
    generalize rest_eq : (n - 1) % 146097 - centuries * 36524 = rest at year
    generalize fours_eq : rest / 1461 = fours at year
    generalize years_eq : min 3 (rest % 1461 / 365) = years at year
    have centuries_le : centuries ≤ 3 := by omega
    have fours_le : fours ≤ 24 := by omega
    have years_le : years ≤ 3 := by omega
    have days : n = eras * 146097 + centuries * 36524 + rest + 1 := by omega
    have inside : fours * 1461 + years * 365 ≤ rest ∧ rest ≤ fours * 1461 + years * 365 + 365 := by
      omega
    clear eras_eq centuries_eq rest_eq fours_eq years_eq
    have leaps : (d.year - 1) / 4 = eras * 100 + centuries * 25 + fours := by omega
    have hundreds : (d.year - 1) / 100 = eras * 4 + centuries := by omega
    have cycles : (d.year - 1) / 400 = eras := by omega
    rw [Day.daysBefore, leaps, hundreds, cycles]
    omega

theorem Day.key_bounds (d : Day) : d.year * 10000 + 101 ≤ d.key ∧ d.key ≤ d.year * 10000 + 1231 ∧
    1 ≤ d.key % 100 ∧ d.key % 100 ≤ 31 := by
  obtain ⟨-, -, low, high, first, last⟩ := d.valid
  have := Store.Table.monthLength_le d.year d.month
  simp only [Day.key]
  omega

/-- From 1970 on, the days since then give the year. -/
theorem Midnight.days {seconds : Nat} (h : Midnight seconds d) :
    ∃ days, seconds = 86400 * days ∧ Day.daysBefore d.year < days + 719163 ∧
      days + 719163 ≤ Day.daysBefore d.year + 366 := by
  obtain ⟨whole, day⟩ := h
  have count : ((seconds : Int) / 86400 + 719528).toNat - 365 = seconds / 86400 + 719163 := by omega
  rw [count] at day
  exact ⟨seconds / 86400, by omega, ofOrdinal?_year day⟩

theorem not_midnight_hundred (d : Day) : ¬Midnight ((100 * d.key : Nat) : Int) d := by
  intro midnight
  obtain ⟨days, same, after, before⟩ := midnight.days
  obtain ⟨low, high, first, last⟩ := d.key_bounds
  rw [Day.daysBefore] at after before
  have year : d.year = 2034 := by omega
  have multiple : days = 23542 ∨ days = 23543 := by omega
  omega

theorem not_midnight_ten (d : Day) : ¬Midnight ((10 * d.key : Nat) : Int) d := by
  intro midnight
  obtain ⟨days, same, after, before⟩ := midnight.days
  obtain ⟨low, high, first, last⟩ := d.key_bounds
  rw [Day.daysBefore] at after before
  have year : d.year = 1976 := by omega
  have multiple : days = 2287 := by omega
  omega

end DocNumber.Calendar
