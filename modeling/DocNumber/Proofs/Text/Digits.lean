import Mathlib.Algebra.Group.Nat.Defs
import Mathlib.Data.List.Induction
import Mathlib.Tactic.Ring
import DocNumber.Text.Digits

/-!
What decimal notation says and how long it is. A number padded to a width can be read back, and
has exactly that width as long as it is below the power of ten. Of two digit runs of one length
the one with the smaller value comes first as text.
-/

namespace DocNumber.Text

theorem toNat_digitChar (d : Nat) : (digitChar d).toNat = 48 + d % 10 := by
  have small : ∀ k < 10, (Char.ofNat (48 + k)).toNat = 48 + k := by decide
  exact small _ (Nat.mod_lt _ (by omega))

theorem digitValue_digitChar (d : Nat) : digitValue (digitChar d) = d % 10 := by
  simp [digitValue, toNat_digitChar]

theorem value_concat (cs : List Char) (c : Char) :
    value (cs ++ [c]) = 10 * value cs + digitValue c := by
  simp [value, List.foldl_append]

theorem value_append (cs ds : List Char) :
    value (cs ++ ds) = value cs * 10 ^ ds.length + value ds := by
  induction ds using List.reverseRecOn with
  | nil => simp [value]
  | append_singleton ds d ih =>
    rw [← List.append_assoc, value_concat, value_concat, ih, List.length_append,
      List.length_singleton, Nat.pow_succ]
    ring

theorem value_cons (c : Char) (cs : List Char) :
    value (c :: cs) = digitValue c * 10 ^ cs.length + value cs := by
  have first : value [c] = digitValue c := by simp [value]
  rw [← List.singleton_append, value_append, first]

theorem value_digits (n : Nat) : value (digits n) = n := by
  induction n using Nat.strongRecOn with
  | ind n ih =>
    unfold digits
    split
    · rename_i small
      change 10 * 0 + digitValue (digitChar n) = n
      rw [digitValue_digitChar]
      omega
    · rw [value_concat, ih (n / 10) (by omega), digitValue_digitChar]
      omega

theorem value_zeros (k : Nat) : value (List.replicate k '0') = 0 := by
  induction k with
  | zero => rfl
  | succ k ih => exact ih

theorem value_padZeros (w : Nat) (cs : List Char) : value (padZeros w cs) = value cs := by
  rw [padZeros, value_append, value_zeros, Nat.zero_mul, Nat.zero_add]

theorem value_padded (w n : Nat) : value (padded w n) = n := by
  change value (padZeros w (digits n)) = n
  rw [value_padZeros, value_digits]

theorem padded_injective {w m n : Nat} (h : padded w m = padded w n) : m = n := by
  rw [← value_padded w m, h, value_padded]

theorem length_digits_le {w n : Nat} (hw : 1 ≤ w) (hn : n < 10 ^ w) : (digits n).length ≤ w := by
  induction w generalizing n with
  | zero => omega
  | succ w ih =>
    unfold digits
    split
    · simp
    · rename_i large
      rw [Nat.pow_succ] at hn
      have : w ≠ 0 := by
        rintro rfl
        omega
      have := ih (n := n / 10) (by omega) (by omega)
      simpa using this

theorem length_padded {w n : Nat} (hw : 1 ≤ w) (hn : n < 10 ^ w) : (padded w n).length = w := by
  have := length_digits_le hw hn
  change (padZeros w (digits n)).length = w
  simp only [padZeros, List.length_append, List.length_replicate]
  omega

/-- Text of one byte a character. -/
theorem utf8ByteSize_ofList {cs : List Char} (ascii : ∀ c ∈ cs, c.toNat < 128) :
    (String.ofList cs).utf8ByteSize = cs.length := by
  induction cs with
  | nil => rfl
  | cons c cs ih =>
    have one : c.utf8Size = 1 := by
      have small : c.toNat < 128 := ascii c List.mem_cons_self
      exact Char.utf8Size_eq_one_iff.mpr (UInt32.le_iff_toNat_le.mpr (Nat.le_of_lt_succ small))
    have rest := ih fun d hd => ascii d (List.mem_cons_of_mem _ hd)
    rw [String.ofList_cons, String.utf8ByteSize_append, String.utf8ByteSize_singleton, one, rest,
      List.length_cons, Nat.add_comm]

theorem toNat_of_isDigit {c : Char} (h : isDigit c = true) : 48 ≤ c.toNat ∧ c.toNat ≤ 57 := by
  simpa [isDigit, Char.le_def, UInt32.le_iff_toNat_le] using h

theorem isDigit_digitChar (d : Nat) : isDigit (digitChar d) = true := by
  have each : ∀ k < 10, isDigit (digitChar k) = true := by decide
  have same : digitChar d = digitChar (d % 10) := by simp [digitChar]
  rw [same]
  exact each _ (Nat.mod_lt _ (by omega))

theorem all_isDigit_digits (n : Nat) : (digits n).all isDigit = true := by
  induction n using Nat.strongRecOn with
  | ind n ih =>
    unfold digits
    split
    · simp [isDigit_digitChar]
    · simp [ih (n / 10) (by omega), isDigit_digitChar]

theorem all_isDigit_padded (w n : Nat) : (padded w n).all isDigit = true := by
  change (padZeros w (digits n)).all isDigit = true
  have zero : isDigit '0' = true := by decide
  simp [padZeros, zero, all_isDigit_digits]

theorem all_isDigit_lastDigits (w n : Nat) : (lastDigits w n).all isDigit = true := by
  induction w generalizing n with
  | zero => rfl
  | succ w ih => simp [lastDigits, ih, isDigit_digitChar]

theorem ascii_lastDigits {w n : Nat} : ∀ c ∈ lastDigits w n, c.toNat < 128 := by
  intro c hc
  have := toNat_of_isDigit (List.all_eq_true.mp (all_isDigit_lastDigits w n) c hc)
  omega

theorem isDigit_of_head {w n : Nat} {c : Char} {rest more : List Char}
    (h : lastDigits (w + 1) n ++ rest = c :: more) : isDigit c = true := by
  have digits := all_isDigit_lastDigits (w + 1) n
  have width := length_lastDigits (w + 1) n
  cases hl : lastDigits (w + 1) n with
  | nil => simp [hl] at width
  | cons d ds =>
    rw [hl] at h digits
    obtain ⟨rfl, -⟩ := List.cons.inj h
    exact (List.all_eq_true.mp digits) _ List.mem_cons_self

theorem value_lastDigits (w n : Nat) : value (lastDigits w n) = n % 10 ^ w := by
  induction w generalizing n with
  | zero => simp [lastDigits, value, Nat.mod_one]
  | succ w ih =>
    rw [lastDigits, value_concat, ih, digitValue_digitChar, Nat.pow_succ, Nat.mul_comm (10 ^ w),
      Nat.mod_mul]
    omega

theorem digitChar_digitValue {c : Char} (h : isDigit c = true) (n : Nat) :
    digitChar (10 * n + digitValue c) = c := by
  obtain ⟨low, high⟩ := toNat_of_isDigit h
  have same : 48 + (10 * n + (c.toNat - 48)) % 10 = c.toNat := by omega
  rw [digitChar, digitValue, same, Char.ofNat_toNat]

theorem value_lt {cs : List Char} (h : cs.all isDigit = true) : value cs < 10 ^ cs.length := by
  induction cs using List.reverseRecOn with
  | nil => simp [value]
  | append_singleton cs c ih =>
    obtain ⟨front, last⟩ : cs.all isDigit = true ∧ isDigit c = true := by simpa using h
    obtain ⟨low, high⟩ := toNat_of_isDigit last
    have := ih front
    rw [value_concat, List.length_append, List.length_singleton, Nat.pow_succ, digitValue]
    omega

/-- Of two digit runs of one length the one with the smaller value comes first as text. -/
theorem lt_of_value_lt {cs ds : List Char} (hc : cs.all isDigit = true)
    (hd : ds.all isDigit = true) (same : cs.length = ds.length) (less : value cs < value ds) :
    cs < ds := by
  induction cs generalizing ds with
  | nil =>
    obtain rfl : ds = [] := List.eq_nil_of_length_eq_zero same.symm
    exact absurd less (Nat.lt_irrefl _)
  | cons c cs ih =>
    cases ds with
    | nil => cases same
    | cons d ds =>
      rw [List.all_cons, Bool.and_eq_true] at hc hd
      have same : cs.length = ds.length := Nat.succ.inj same
      rw [value_cons, value_cons, same] at less
      have low := value_lt hc.2
      rw [same] at low
      have first := toNat_of_isDigit hc.1
      have second := toNat_of_isDigit hd.1
      rw [List.cons_lt_cons_iff]
      rcases Nat.lt_trichotomy (digitValue c) (digitValue d) with before | equal | after
      · left
        change c.toNat < d.toNat
        unfold digitValue at before
        omega
      · right
        have chars : c = d := by
          apply Char.toNat_inj.mp
          unfold digitValue at equal
          omega
        rw [equal] at less
        exact ⟨chars, ih hc.2 hd.2 same (by omega)⟩
      · -- A greater first digit outweighs all that follows.
        have := Nat.mul_le_mul_right (10 ^ ds.length) (Nat.succ_le_of_lt after)
        rw [Nat.succ_mul] at this
        have := value_lt hd.2
        omega

theorem padded_lt {w m n : Nat} (hw : 1 ≤ w) (hn : n < 10 ^ w) (less : m < n) :
    padded w m < padded w n := by
  apply lt_of_value_lt (all_isDigit_padded w m) (all_isDigit_padded w n)
  · rw [length_padded hw hn, length_padded hw (Nat.lt_trans less hn)]
  · rwa [value_padded, value_padded]

theorem append_lt_append {a b : List Char} (h : a < b) (same : a.length = b.length)
    (cs ds : List Char) : a ++ cs < b ++ ds := by
  induction a generalizing b with
  | nil =>
    obtain rfl : b = [] := List.eq_nil_of_length_eq_zero same.symm
    cases h
  | cons c a ih =>
    cases b with
    | nil => cases same
    | cons d b =>
      rw [List.cons_append, List.cons_append, List.cons_lt_cons_iff]
      rcases List.cons_lt_cons_iff.mp h with less | ⟨rfl, less⟩
      · exact .inl less
      · exact .inr ⟨rfl, ih less (Nat.succ.inj same)⟩

theorem lt_pow_length_digits (n : Nat) : n < 10 ^ (digits n).length := by
  have bound := value_lt (all_isDigit_digits n)
  rwa [value_digits] at bound

/-- Digits are the padded notation of their value. -/
theorem lastDigits_value {cs : List Char} (h : cs.all isDigit = true) :
    lastDigits cs.length (value cs) = cs := by
  induction cs using List.reverseRecOn with
  | nil => rfl
  | append_singleton cs c ih =>
    obtain ⟨front, last⟩ : cs.all isDigit = true ∧ isDigit c = true := by simpa using h
    obtain ⟨low, high⟩ := toNat_of_isDigit last
    have shorter : (10 * value cs + digitValue c) / 10 = value cs := by
      rw [digitValue]
      omega
    rw [value_concat, List.length_append, List.length_singleton, lastDigits, shorter, ih front,
      digitChar_digitValue last]

/-- What can be taken off the front is a number written to that width. -/
theorem takeDigits?_eq_some_iff {w n : Nat} {cs rest : List Char} :
    takeDigits? w cs = some (n, rest) ↔ n < 10 ^ w ∧ cs = lastDigits w n ++ rest := by
  constructor
  · intro h
    unfold takeDigits? at h
    dsimp only at h
    split at h
    · rename_i front
      obtain ⟨width, digits⟩ : (cs.take w).length = w ∧ (cs.take w).all isDigit = true := by
        simpa only [Bool.and_eq_true, beq_iff_eq] using front
      obtain ⟨rfl, rfl⟩ := Prod.mk.inj (Option.some.inj h)
      have bound := value_lt digits
      have same := lastDigits_value digits
      rw [width] at bound same
      exact ⟨bound, by rw [same, List.take_append_drop]⟩
    · cases h
  · rintro ⟨bound, rfl⟩
    have width := length_lastDigits w n
    unfold takeDigits?
    rw [List.take_left' width, List.drop_left' width]
    simp [width, all_isDigit_lastDigits, value_lastDigits, Nat.mod_eq_of_lt bound]

theorem takeDigits?_lastDigits {w n : Nat} (h : n < 10 ^ w) (rest : List Char) :
    takeDigits? w (lastDigits w n ++ rest) = some (n, rest) :=
  takeDigits?_eq_some_iff.mpr ⟨h, rfl⟩

end DocNumber.Text
