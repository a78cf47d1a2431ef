import DocNumber.Proofs.Calendar.Midnight
import DocNumber.Proofs.Decimal.Shortest

/-!
Texts that are read as a day both as written and loosely. Dates with dashes are read alike. A date
without them, with what follows it ignored, is also a count of seconds; where that count is a
midnight, it is a midnight of another day.
-/

namespace DocNumber.Calendar

open Text Decimal

/-- A date without dashes, with an end that makes a midnight of it. -/
inductive Twofold : List Char → Prop
  | zeros (d : Day) (midnight : d.key % 864 = 0) : Twofold (d.compact ++ ['0', '0'])
  | point (d : Day) (midnight : d.key % 8640 = 0) : Twofold (d.compact ++ ['0', '.'])

variable {d a b : Day} {cs ds rest : List Char}

/-! ## Dates with dashes -/

theorem takeDate?_written (d : Day) (rest : List Char) :
    takeDate? (d.written ++ rest) = some (⟨d.year, d.month, d.day⟩, rest) := by
  obtain ⟨year, month, day⟩ := d.bounds
  obtain ⟨-, -, low, high, first, last⟩ := d.valid
  have spelt : d.written ++ rest = lastDigits 4 d.year ++
      '-' :: (lastDigits 2 d.month ++ '-' :: (lastDigits 2 d.day ++ rest)) := by
    simp [Day.written]
  have real : LooseDay.check ⟨d.year, d.month, d.day⟩ = some ⟨d.year, d.month, d.day⟩ :=
    if_pos ⟨low, high, first, last⟩
  rw [spelt]
  simp [takeDate?, takeDigits?_lastDigits year, takeDigits?_lastDigits month,
    takeDigits?_lastDigits day, real]

theorem ofText_written {s : String} (hs : s.toList = d.written ++ rest) (h : ofText s = .ok b) :
    b = d := by
  have same : LooseDay.toDay ⟨d.year, d.month, d.day⟩ = .ok d := by
    simp only [LooseDay.toDay, Day.of?_parts]
  simp only [ofText, hs, takeDate?_written] at h
  cases rest with
  | nil => exact Except.ok.inj (h.symm.trans same)
  | cons mark rest =>
    dsimp only at h
    split at h
    · split at h
      · exact Except.ok.inj (h.symm.trans same)
      · cases h
      · cases h
    · cases h

/-! ## Counts -/

theorem takeDate?_other {year : Nat} (hy : year < 10 ^ 4)
    (other : ∀ tail, rest = '-' :: tail → takeDigits? 2 tail = none) :
    takeDate? (lastDigits 4 year ++ rest) = none := by
  simp only [takeDate?, takeDigits?_lastDigits hy, bind, Option.bind]
  split
  · simp only [other _ rfl]
  · rfl

/-- A text that starts with digits and is read as a count is all digits, or digits and a point. -/
theorem ofNumberText_ok (digits : ds.all isDigit = true) (some : ds ≠ [])
    (h : ofNumberText (ds ++ rest) = .ok b) :
    (rest.all isDigit = true ∧ ofInt (value (ds ++ rest)) = .ok b) ∨
      ∃ more fraction, rest = more ++ '.' :: fraction ∧ more.all isDigit = true ∧
        fraction.all isDigit = true ∧
        ofRealText (.ofDecimal false (value (ds ++ more ++ fraction)) (-(fraction.length : Int))) =
          .ok b := by
  have front : (ds ++ rest).takeWhile isDigit = ds ++ rest.takeWhile isDigit :=
    List.takeWhile_append_of_pos fun c hc => List.all_eq_true.mp digits c hc
  have back : (ds ++ rest).dropWhile isDigit = rest.dropWhile isDigit :=
    List.dropWhile_append_of_pos fun c hc => List.all_eq_true.mp digits c hc
  have unsigned : ∀ c more, ds ++ rest = c :: more → isDigit c = true := by
    obtain ⟨d, ds, rfl⟩ := List.exists_cons_of_ne_nil some
    intro c more same
    obtain ⟨rfl, -⟩ := List.cons.inj same
    exact List.all_eq_true.mp digits d List.mem_cons_self
  have run : (rest.takeWhile isDigit).all isDigit = true := List.all_takeWhile
  have whole := List.takeWhile_append_dropWhile (p := isDigit) (l := rest)
  unfold ofNumberText at h
  dsimp only at h
  split at h
  · rename_i same
    cases unsigned _ _ same
  · rename_i same
    cases unsigned _ _ same
  · simp only [front, back] at h
    generalize rest.takeWhile isDigit = more at h run whole
    split at h
    · cases h
    · split at h
      · rename_i none
        rw [none, List.append_nil] at whole
        obtain rfl := whole
        exact .inl ⟨run, h⟩
      · rename_i fraction point
        rw [point] at whole
        split at h
        · rename_i tail
          exact .inr ⟨more, fraction, whole.symm, run, tail, h⟩
        · cases h
      · cases h

theorem not_ofNumberText {c : Char} (digits : ds.all isDigit = true) (some : ds ≠ [])
    (other : isDigit c = false) (point : c ≠ '.') : ofNumberText (ds ++ c :: rest) ≠ .ok b := by
  intro h
  rcases ofNumberText_ok digits some h with ⟨run, -⟩ | ⟨more, fraction, same, run, -⟩
  · simp [other] at run
  · cases more with
    | nil => exact point (List.cons.inj same).1
    | cons m more =>
      obtain ⟨rfl, -⟩ := List.cons.inj same
      simp [other] at run

/-- A numeral is read as a midnight less than half a second away. -/
theorem ofRealText_midnight {digits k : Nat} (some : 0 < digits) (few : digits < 10 ^ 10)
    (hk : k ≤ 1) (h : ofRealText (.ofDecimal false digits (-(k : Int))) = .ok b) :
    ∃ seconds : Int, |(seconds : ℚ) - digits / 10 ^ k| < 1 / 2 ∧ Midnight seconds b := by
  cases hx : Binary64.ofDecimal false digits (-(k : Int)) with
  | finite s m e =>
    obtain ⟨rfl, near⟩ := Binary64.ofDecimal_near some (by omega) hk hx
    have real : ofReal (.finite false m e) = .ok b := by
      rw [hx] at h
      exact h
    have part : (digits : ℚ) / 10 ^ k ≤ digits :=
      div_le_self (by positivity) (one_le_pow₀ (by norm_num))
    have bound : (digits : ℚ) < 10000000000 := by exact_mod_cast few
    rw [abs_le] at near
    have small : (m : ℚ) * 2 ^ e < 20000000000 := by linarith
    obtain ⟨seconds, close, midnight⟩ := ofReal_midnight small real
    refine ⟨seconds, ?_, midnight⟩
    rw [abs_le] at close
    rw [abs_lt]
    constructor <;> linarith
  | infinite | nan =>
    rw [hx] at h
    cases h

/-! ## Dates without dashes -/

theorem all_isDigit_compact (d : Day) : d.compact.all isDigit = true := by
  simp [Day.compact, all_isDigit_lastDigits]

theorem length_compact (d : Day) : d.compact.length = 8 := by
  simp [Day.compact, length_lastDigits]

theorem value_compact (d : Day) : value d.compact = d.key := by
  obtain ⟨year, month, day⟩ := d.bounds
  simp only [Day.compact, value_append, value_lastDigits, length_lastDigits, Nat.mod_eq_of_lt year,
    Nat.mod_eq_of_lt month, Nat.mod_eq_of_lt day]
  rfl

theorem Day.key_lt (d : Day) : d.key < 10 ^ 8 := by
  have bound := value_lt (all_isDigit_compact d)
  rwa [value_compact, length_compact] at bound

/-- Between the seconds that a date without dashes makes as a number, and the next, there is no
midnight. -/
theorem not_midnight_near (d : Day) {c : Nat} (hc : c ≤ 9) {seconds : Int}
    (near : |(seconds : ℚ) - (d.key * 10 + c : Nat) / 10| < 1 / 2) : seconds % 86400 ≠ 0 := by
  obtain ⟨-, -, first, last⟩ := d.key_bounds
  have tenths : (c : ℚ) ≤ 9 := by exact_mod_cast hc
  rw [abs_lt] at near
  push_cast at near
  have low : (d.key : Int) - 1 < seconds := by
    have : (d.key : ℚ) - 1 < seconds := by linarith [(Nat.cast_nonneg c : (0 : ℚ) ≤ c)]
    exact_mod_cast this
  have high : seconds < d.key + 2 := by
    have : (seconds : ℚ) < d.key + 2 := by linarith
    exact_mod_cast this
  omega

theorem twofold_of_digits (run : rest.all isDigit = true)
    (length : rest.length = 0 ∨ rest.length = 2)
    (h : ofInt (value (a.compact ++ rest)) = .ok b) : a ≠ b ∧ Twofold (a.compact ++ rest) := by
  have bound := a.key_lt
  obtain ⟨-, -, first, last⟩ := a.key_bounds
  have tail := value_lt run
  have same := lastDigits_value run
  rw [value_append, value_compact] at h
  have midnight := ofInt_midnight (by rcases length with l | l <;> rw [l] at tail ⊢ <;> omega) h
  have whole := midnight.whole
  rcases length with l | l
  · rw [l] at tail whole
    omega
  · rw [l] at tail whole same midnight
    have zero : value rest = 0 := by omega
    rw [zero] at same midnight whole
    obtain rfl : rest = ['0', '0'] := same.symm
    refine ⟨?_, .zeros a (by omega)⟩
    rintro rfl
    apply not_midnight_hundred a
    rwa [Nat.add_zero, Nat.mul_comm] at midnight

theorem twofold_of_point {more fraction : List Char} (run : more.all isDigit = true)
    (run' : fraction.all isDigit = true) (length : more.length + fraction.length = 1)
    (h : ofRealText (.ofDecimal false (value (a.compact ++ more ++ fraction))
      (-(fraction.length : Int))) = .ok b) :
    a ≠ b ∧ Twofold (a.compact ++ more ++ '.' :: fraction) := by
  have bound := a.key_lt
  obtain ⟨-, -, first, -⟩ := a.key_bounds
  have tail : (more ++ fraction).all isDigit = true := by simp [run, run']
  have digit := value_lt tail
  rw [List.length_append, length] at digit
  have worth : value (a.compact ++ more ++ fraction) = a.key * 10 + value (more ++ fraction) := by
    rw [List.append_assoc, value_append, value_compact, List.length_append, length, Nat.pow_one]
  rw [worth] at h
  obtain ⟨seconds, close, midnight⟩ := ofRealText_midnight (by omega) (by omega) (by omega) h
  have whole := midnight.whole
  cases fraction with
  | cons c fraction =>
    obtain ⟨rfl, rfl⟩ : more = [] ∧ fraction = [] := by
      simp only [List.length_cons] at length
      exact ⟨List.length_eq_zero_iff.mp (by omega), List.length_eq_zero_iff.mp (by omega)⟩
    rw [List.length_singleton, pow_one] at close
    exact absurd whole (not_midnight_near a (by omega) close)
  | nil =>
    rw [List.append_nil] at tail digit close
    rw [List.length_nil, pow_zero, div_one] at close
    rw [List.length_nil, Nat.add_zero] at length
    obtain rfl : seconds = (a.key * 10 + value more : Nat) := by
      have small : |(seconds : ℚ) - (a.key * 10 + value more : Nat)| < 1 :=
        close.trans (by norm_num)
      rw [← sub_eq_zero, ← Int.abs_lt_one_iff]
      exact_mod_cast small
    have same := lastDigits_value tail
    have zero : value more = 0 := by omega
    rw [length, zero] at same
    rw [zero] at midnight whole
    obtain rfl : more = ['0'] := same.symm
    rw [List.append_assoc]
    refine ⟨?_, .point a (by omega)⟩
    rintro rfl
    apply not_midnight_ten a
    rwa [Nat.add_zero, Nat.mul_comm] at midnight

/-! ## Texts and numbers -/

theorem not_mem_dash (h : Twofold cs) : '-' ∉ cs := by
  have digits (d : Day) : '-' ∉ d.compact := by
    intro mem
    cases List.all_eq_true.mp (all_isDigit_compact d) _ mem
  cases h with
  | zeros d | point d => simp [digits d]

/-- As many bytes as a text has that is read as a day. -/
def Sized (cs : List Char) : Prop :=
  (String.ofList cs).utf8ByteSize = 7 ∨ (String.ofList cs).utf8ByteSize = 8 ∨
    (String.ofList cs).utf8ByteSize = 10

/-- A date without dashes leaves room for two characters. -/
theorem Sized.length_rest (sized : Sized (d.compact ++ rest))
    (ascii : ∀ c ∈ rest, isDigit c = true ∨ c = '.') : rest.length = 0 ∨ rest.length = 2 := by
  have bytes : (String.ofList (d.compact ++ rest)).utf8ByteSize = 8 + rest.length := by
    rw [utf8ByteSize_ofList, List.length_append, length_compact]
    intro c hc
    rcases List.mem_append.mp hc with front | back
    · have := toNat_of_isDigit (List.all_eq_true.mp (all_isDigit_compact d) c front)
      omega
    · rcases ascii c back with digit | rfl
      · have := toNat_of_isDigit digit
        omega
      · decide
  rw [Sized, bytes] at sized
  omega

theorem digit_or_point {front back : List Char} (run : front.all isDigit = true)
    (run' : back.all isDigit = true) : ∀ c ∈ front ++ '.' :: back, isDigit c = true ∨ c = '.' := by
  intro c hc
  rcases List.mem_append.mp hc with mem | mem
  · exact .inl (List.all_eq_true.mp run c mem)
  · rcases List.mem_cons.mp mem with point | mem
    · exact .inr point
    · exact .inl (List.all_eq_true.mp run' c mem)

/-- A date without dashes that is also a count is twofold. -/
theorem twofold_of_compact (sized : Sized (a.compact ++ rest))
    (h : ofNumberText (a.compact ++ rest) = .ok b) : a ≠ b ∧ Twofold (a.compact ++ rest) := by
  have some : a.compact ≠ [] := List.ne_nil_of_length_eq_add_one (length_compact a)
  rcases ofNumberText_ok (all_isDigit_compact a) some h with
    ⟨run, count⟩ | ⟨more, fraction, rfl, run, run', count⟩
  · have length := sized.length_rest fun c hc => .inl (List.all_eq_true.mp run c hc)
    exact twofold_of_digits run length count
  · have length := sized.length_rest (digit_or_point run run')
    rw [List.length_append, List.length_cons] at length
    rw [← List.append_assoc]
    exact twofold_of_point run run' (by omega) count

theorem Twofold.length (h : Twofold cs) : cs.length = 10 := by
  cases h with
  | zeros d | point d => simp [length_compact d]

/-- A text that both readings accept is read as two days exactly where it is twofold. -/
theorem ofText_eq_iff {s : String} (written : readWritten? s = some a) (loose : ofText s = .ok b) :
    a = b ↔ ¬Twofold s.toList := by
  obtain ⟨starts, bytes⟩ := readWritten?_starts written
  have sized : Sized s.toList := by rwa [Sized, String.ofList_toList]
  generalize hs : s.toList = cs at starts sized
  have number (none : takeDate? cs = none) : ofNumberText cs = .ok b := by
    simpa only [ofText, hs, none] using loose
  have year (y : Nat) : lastDigits 4 y ≠ [] :=
    List.ne_nil_of_length_eq_add_one (length_lastDigits 4 y)
  cases starts with
  | dashed d rest =>
    refine iff_of_true (ofText_written hs loose).symm ?_
    intro twofold
    exact not_mem_dash twofold (by simp [Day.written])
  | week hy rest =>
    have count := number (takeDate?_other hy (by simp))
    exact absurd count (not_ofNumberText (all_isDigit_lastDigits 4 _) (year _) rfl (by decide))
  | dashedWeek hy rest =>
    have letter : takeDigits? 2 ('W' :: rest) = none := by simp [takeDigits?, isDigit]
    have count := number (takeDate?_other hy (by
      rintro tail same
      obtain ⟨-, rfl⟩ := List.cons.inj same
      exact letter))
    exact absurd count (not_ofNumberText (all_isDigit_lastDigits 4 _) (year _) rfl (by decide))
  | compact _ rest =>
    have none : takeDate? (a.compact ++ rest) = none := by
      rw [Day.compact, List.append_assoc, List.append_assoc]
      apply takeDate?_other a.bounds.1
      intro tail same
      cases isDigit_of_head same
    obtain ⟨different, twofold⟩ := twofold_of_compact sized (number none)
    exact iff_of_false different (not_not.mpr twofold)

/-- A year comes first. -/
theorem Starts.year (h : Starts cs d) : (cs.take 4).all isDigit = true := by
  have front (n : Nat) (more : List Char) :
      ((lastDigits 4 n ++ more).take 4).all isDigit = true := by
    rw [List.take_left' (length_lastDigits 4 n)]
    exact all_isDigit_lastDigits 4 n
  cases h with
  | dashed | compact =>
    simp only [Day.written, Day.compact, List.append_assoc]
    exact front _ _
  | week | dashedWeek => exact front _ _

theorem Starts.head {c : Char} (h : Starts (c :: rest) d) : isDigit c = true := by
  have year := h.year
  rw [List.take_succ_cons, List.all_cons, Bool.and_eq_true] at year
  exact year.1

theorem Starts.second {c c' : Char} (h : Starts (c :: c' :: rest) d) : isDigit c' = true := by
  have year := h.year
  rw [List.take_succ_cons, List.take_succ_cons, List.all_cons, List.all_cons, Bool.and_eq_true,
    Bool.and_eq_true] at year
  exact year.2.1

/-- Where there is neither a dash nor a week, it is a date without dashes. -/
theorem Starts.of_plain (h : Starts cs d) (dash : '-' ∉ cs) (week : 'W' ∉ cs) :
    ∃ rest, cs = d.compact ++ rest := by
  cases h with
  | dashed => exact absurd (by simp [Day.written]) dash
  | compact _ rest => exact ⟨rest, rfl⟩
  | week | dashedWeek => exact absurd (by simp) week

/-- The same for whole numbers, which are written in full. -/
theorem ofInt_eq_iff {n : Int} (written : readWritten? (String.ofList (integer n)) = some a)
    (loose : ofInt n = .ok b) : a = b ↔ ¬Twofold (integer n) := by
  obtain ⟨starts, bytes⟩ := readWritten?_starts written
  rw [String.toList_ofList] at starts
  cases n with
  | negSucc n => cases starts.head
  | ofNat n =>
    have run := all_isDigit_digits n
    have worth := value_digits n
    change Starts (digits n) a at starts
    change _ ↔ ¬Twofold (digits n)
    have other (c : Char) (hc : isDigit c = false) : c ∉ digits n := by
      intro mem
      rw [List.all_eq_true.mp run c mem] at hc
      cases hc
    obtain ⟨rest, same⟩ := starts.of_plain (other _ rfl) (other _ rfl)
    have sized : Sized (digits n) := bytes
    rw [same] at run worth sized ⊢
    have tail : rest.all isDigit = true := by simpa [all_isDigit_compact] using run
    have length := sized.length_rest fun c hc => .inl (List.all_eq_true.mp tail c hc)
    obtain ⟨different, twofold⟩ := twofold_of_digits tail length (by rw [worth]; exact loose)
    exact iff_of_false different (not_not.mpr twofold)

/-- What is read of digits around a point is a date before it and a tenth after it. -/
theorem date_and_tenth {front back : List Char} (starts : Starts (front ++ '.' :: back) a)
    (sized : Sized (front ++ '.' :: back)) (run : front.all isDigit = true)
    (run' : back.all isDigit = true) (some : back ≠ []) :
    front = a.compact ∧ back.length = 1 := by
  have other (c : Char) (hc : isDigit c = false) (point : c ≠ '.') : c ∉ front ++ '.' :: back := by
    intro mem
    rcases digit_or_point run run' c mem with digit | same
    · rw [hc] at digit
      cases digit
    · exact point same
  obtain ⟨rest, same⟩ := starts.of_plain (other _ rfl (by decide)) (other _ rfl (by decide))
  obtain ⟨more, rfl⟩ : ∃ more, front = a.compact ++ more := by
    rcases List.append_eq_append_iff.mp same with ⟨more, date, tail⟩ | ⟨more, date, -⟩
    · cases more with
      | nil => exact ⟨[], by simp [date]⟩
      | cons c more =>
        obtain ⟨rfl, -⟩ := List.cons.inj tail
        have digits := all_isDigit_compact a
        simp [date, isDigit] at digits
    · exact ⟨more, date⟩
  have tail : more.all isDigit = true := by simpa [all_isDigit_compact] using run
  have fraction := List.length_pos_iff.mpr some
  rw [List.append_assoc] at sized
  have length := sized.length_rest (digit_or_point tail run')
  rw [List.length_append, List.length_cons] at length
  obtain rfl : more = [] := List.length_eq_zero_iff.mp (by omega)
  exact ⟨List.append_nil _, by omega⟩

/-- No number whose shortest text is a date and a tenth is read as a midnight. -/
theorem not_ofReal_tenth {m c : Nat} {e : Int} (some : m ≠ 0) (hc : c ≤ 9)
    (worth : (shortest m e).value = (a.key * 10 + c : Nat) / 10) :
    ofReal (.finite false m e) ≠ .ok b := by
  intro loose
  obtain ⟨-, -, first, last⟩ := a.key_bounds
  have bound := a.key_lt
  by_cases he : e < 0
  · have top : (shortest m e).value < 10 ^ 8 := by
      have bound : ((a.key * 10 + c : Nat) : ℚ) < 1000000000 := by
        exact_mod_cast (by omega : a.key * 10 + c < 1000000000)
      rw [worth]
      linarith
    have close := shortest_near he top
    have small : (m : ℚ) * 2 ^ e < 20000000000 := by
      rw [abs_le] at close
      norm_num at top
      linarith
    obtain ⟨seconds, near, midnight⟩ := ofReal_midnight small loose
    apply not_midnight_near a hc _ midnight.whole
    rw [← worth]
    rw [abs_le] at close near
    rw [abs_lt]
    constructor <;> linarith
  · obtain ⟨k, rfl⟩ := Int.eq_ofNat_of_zero_le (not_lt.mp he)
    obtain ⟨word, whole⟩ := ofReal_whole loose
    have power : 2 ≤ (shortest m k).power :=
      shortest_hundred (Nat.pos_of_ne_zero some) (Nat.dvd_of_mod_eq_zero (by omega)) (by omega)
    obtain ⟨j, hj⟩ := Int.le.dest power
    change (shortest m k).value = _ at worth
    rw [Numeral.value, ← hj, zpow_add₀ (by norm_num), zpow_natCast, eq_div_iff (by norm_num)]
      at worth
    have worth : (shortest m k).digits * (10 ^ 2 * 10 ^ j) * 10 = a.key * 10 + c := by
      exact_mod_cast worth
    have hundreds : (shortest m k).digits * (10 ^ 2 * 10 ^ j) * 10 =
        1000 * ((shortest m k).digits * 10 ^ j) := by ring
    omega

/-- A number with a point is never read both ways. -/
theorem not_ofReal {x : Binary64} (written : readWritten? (String.ofList x.text) = some a) :
    ofReal x ≠ .ok b := by
  intro loose
  obtain ⟨starts, bytes⟩ := readWritten?_starts written
  rw [String.toList_ofList] at starts
  cases x with
  | infinite | nan => cases loose
  | finite negative m e =>
    cases negative with
    | true => cases starts.head
    | false =>
      by_cases hm : m = 0
      · subst hm
        cases starts.second
      · simp only [Binary64.text, Bool.false_eq_true, ↓reduceIte, List.nil_append, beq_iff_eq, hm]
          at starts bytes
        have sized : Sized (positive m e) := bytes
        rcases positive_cases m e with ⟨c, c', rest, form, other⟩ |
          ⟨front, back, form, run, run', some, worth⟩
        · rw [form] at starts
          rw [starts.second] at other
          cases other
        · rw [form] at starts sized
          obtain ⟨rfl, length⟩ := date_and_tenth starts sized run run' some
          have digit := value_lt run'
          rw [length] at digit worth
          rw [value_append, value_compact, length, Nat.pow_one, pow_one] at worth
          exact not_ofReal_tenth hm (by omega) worth loose

end DocNumber.Calendar
