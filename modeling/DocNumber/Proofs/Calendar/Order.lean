import DocNumber.Proofs.Text.Digits
import DocNumber.Store.Table

/-!
Days compared by their text. Year, month and day are written with a fixed number of digits, the
most significant first, so the order of the texts is the order of the days.
-/

namespace DocNumber.Store.Table

open Text Calendar

theorem textNotAfter_cons (c d : Char) (cs ds : List Char) :
    textNotAfter (c :: cs) (d :: ds) =
      (decide (c.toNat < d.toNat) || (decide (c = d) && textNotAfter cs ds)) := by
  by_cases h : c = d <;> simp [textNotAfter, h]

theorem digitChar_eq_iff (m n : Nat) : digitChar m = digitChar n ↔ m % 10 = n % 10 := by
  constructor
  · intro h
    rw [← digitValue_digitChar m, h, digitValue_digitChar]
  · intro h
    simp [digitChar, h]

/-- Runs of equally many digits decide by their values, and only then what follows. -/
theorem textNotAfter_lastDigits {w m n : Nat} (hm : m < 10 ^ w) (hn : n < 10 ^ w)
    (cs ds : List Char) :
    textNotAfter (lastDigits w m ++ cs) (lastDigits w n ++ ds) =
      (decide (m < n) || (decide (m = n) && textNotAfter cs ds)) := by
  induction w generalizing m n cs ds with
  | zero =>
    obtain rfl : m = 0 := by simpa using hm
    obtain rfl : n = 0 := by simpa using hn
    simp [lastDigits]
  | succ w ih =>
    rw [Nat.pow_succ] at hm hn
    simp only [lastDigits, List.append_assoc, List.singleton_append]
    rw [ih (m := m / 10) (n := n / 10) (by omega) (by omega), textNotAfter_cons,
      toNat_digitChar, toNat_digitChar]
    apply Bool.eq_iff_iff.mpr
    simp only [Bool.or_eq_true, Bool.and_eq_true, decide_eq_true_eq, digitChar_eq_iff]
    constructor
    · rintro (less | ⟨same, less | ⟨last, rest⟩⟩)
      · exact .inl (by omega)
      · exact .inl (by omega)
      · exact .inr ⟨by omega, rest⟩
    · rintro (less | ⟨rfl, rest⟩)
      · by_cases h : m / 10 < n / 10
        · exact .inl h
        · exact .inr ⟨by omega, .inl (by omega)⟩
      · exact .inr ⟨rfl, .inr ⟨rfl, rest⟩⟩

theorem monthLength_le (year month : Nat) : monthLength year month ≤ 31 := by
  have lengths : ∀ n ∈ monthLengths year, n ≤ 31 := by
    intro n hn
    simp only [monthLengths, List.mem_cons, List.not_mem_nil, or_false] at hn
    split at hn <;> omega
  unfold monthLength
  split
  · omega
  · rw [List.getD_eq_getElem?_getD]
    cases h : (monthLengths year)[month - 1]? with
    | none => simp
    | some n => exact lengths n (List.mem_of_getElem? h)

theorem notAfter_eq (a b : Day) : notAfter a b = decide (a ≤ b) := by
  obtain ⟨_, ha, _, ha', _, hd⟩ := a.valid
  obtain ⟨_, hb, _, hb', _, he⟩ := b.valid
  have := monthLength_le a.year a.month
  have := monthLength_le b.year b.month
  have last := textNotAfter_lastDigits (w := 2) (m := a.day) (n := b.day) (by omega) (by omega)
    [] []
  simp only [List.append_nil] at last
  unfold notAfter Day.written
  simp only [List.append_assoc, List.cons_append]
  rw [textNotAfter_lastDigits (by omega) (by omega), textNotAfter_cons,
    textNotAfter_lastDigits (by omega) (by omega), textNotAfter_cons, last]
  apply Bool.eq_iff_iff.mpr
  simp only [Bool.or_eq_true, Bool.and_eq_true, decide_eq_true_eq, textNotAfter,
    Nat.lt_irrefl, false_or, true_and, and_true]
  change _ ↔ a.key ≤ b.key
  simp only [Day.key]
  omega

theorem inWindow_eq (day : Day) (w : Window) : inWindow day w = w.contains day := by
  unfold inWindow Window.contains
  rw [notAfter_eq]
  cases w.last with
  | none => rfl
  | some last => simp only [notAfter_eq]

end DocNumber.Store.Table
