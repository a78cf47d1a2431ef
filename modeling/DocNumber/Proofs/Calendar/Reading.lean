import DocNumber.Calendar.Written
import DocNumber.Proofs.Calendar.Order

/-!
Days read back from text. A text that is read starts with a day, with dashes or without, or with a
year and a week, and nothing after that is looked at.
-/

namespace DocNumber.Calendar

open Text

/-- Year, month and day without dashes. -/
def Day.compact (d : Day) : List Char :=
  lastDigits 4 d.year ++ lastDigits 2 d.month ++ lastDigits 2 d.day

theorem Day.bounds (d : Day) : d.year < 10 ^ 4 ∧ d.month < 10 ^ 2 ∧ d.day < 10 ^ 2 := by
  obtain ⟨-, year, -, month, -, day⟩ := d.valid
  have := Store.Table.monthLength_le d.year d.month
  omega

theorem Day.of?_eq_some {year month day : Nat} {d : Day} (h : Day.of? year month day = some d) :
    d.year = year ∧ d.month = month ∧ d.day = day := by
  unfold Day.of? at h
  split at h
  · obtain rfl := Option.some.inj h
    exact ⟨rfl, rfl, rfl⟩
  · cases h

/-- What a text starts with that is read as a day. -/
inductive Starts : List Char → Day → Prop
  | dashed (d : Day) (rest : List Char) : Starts (d.written ++ rest) d
  | compact (d : Day) (rest : List Char) : Starts (d.compact ++ rest) d
  | week {year : Nat} (hy : year < 10 ^ 4) (rest : List Char) (d : Day) :
      Starts (lastDigits 4 year ++ 'W' :: rest) d
  | dashedWeek {year : Nat} (hy : year < 10 ^ 4) (rest : List Char) (d : Day) :
      Starts (lastDigits 4 year ++ '-' :: 'W' :: rest) d

variable {cs : List Char} {d : Day}

/-- The digits of a month and a day, with a dash between them where one is due. -/
theorem readMonth?_eq_some {year : Nat} {dashed : Bool} (h : readMonth? year dashed cs = some d) :
    d.year = year ∧ ∃ rest, cs = lastDigits 2 d.month ++
      (if dashed then ['-'] else []) ++ lastDigits 2 d.day ++ rest := by
  simp only [readMonth?, bind, Option.bind_eq_some_iff, Prod.exists] at h
  obtain ⟨month, rest, front, rest', dash, day, last, back, made⟩ := h
  obtain ⟨rfl, rfl, rfl⟩ := Day.of?_eq_some made
  obtain ⟨-, rfl⟩ := takeDigits?_eq_some_iff.mp front
  obtain ⟨-, rfl⟩ := takeDigits?_eq_some_iff.mp back
  refine ⟨rfl, last, ?_⟩
  cases dashed with
  | false =>
    obtain rfl := Option.some.inj dash
    simp
  | true =>
    simp only [skipDash?, ↓reduceIte] at dash
    split at dash
    · obtain rfl := Option.some.inj dash
      simp
    · cases dash

theorem readParts?_starts (h : readParts? cs = some d) : Starts cs d := by
  unfold readParts? at h
  split at h
  · cases h
  · rename_i year rest front
    obtain ⟨hy, rfl⟩ := takeDigits?_eq_some_iff.mp front
    split at h
    rename_i dashed rest' parts
    split at parts
    · obtain ⟨rfl, rfl⟩ := Prod.mk.inj parts
      split at h
      · exact .dashedWeek hy _ _
      · obtain ⟨rfl, rest, rfl⟩ := readMonth?_eq_some h
        simpa [Day.written] using Starts.dashed d rest
    · obtain ⟨rfl, rfl⟩ := Prod.mk.inj parts
      split at h
      · exact .week hy _ _
      · obtain ⟨rfl, rest, rfl⟩ := readMonth?_eq_some h
        simpa [Day.compact] using Starts.compact d rest

theorem readWritten?_starts {s : String} (h : readWritten? s = some d) :
    Starts s.toList d ∧ (s.utf8ByteSize = 7 ∨ s.utf8ByteSize = 8 ∨ s.utf8ByteSize = 10) := by
  unfold readWritten? at h
  dsimp only at h
  split at h
  · rename_i bytes
    exact ⟨readParts?_starts h, bytes⟩
  · cases h

theorem readParts?_written (d : Day) (rest : List Char) :
    readParts? (d.written ++ rest) = some d := by
  obtain ⟨year, month, day⟩ := d.bounds
  have spelt : d.written ++ rest = lastDigits 4 d.year ++
      '-' :: (lastDigits 2 d.month ++ '-' :: (lastDigits 2 d.day ++ rest)) := by
    simp [Day.written]
  rw [spelt]
  simp only [readParts?, takeDigits?_lastDigits year]
  split
  · rename_i letter
    cases isDigit_of_head letter
  · simp [readMonth?, takeDigits?_lastDigits month, takeDigits?_lastDigits day, skipDash?,
      Day.of?_parts]

/-- A day is read back from its text. -/
theorem readWritten?_text (d : Day) : readWritten? d.text = some d := by
  have ascii : ∀ c ∈ d.written, c.toNat < 128 := by
    intro c hc
    simp only [Day.written, List.mem_append, List.mem_cons] at hc
    rcases hc with (hc | rfl | hc) | rfl | hc
    · exact ascii_lastDigits c hc
    · decide
    · exact ascii_lastDigits c hc
    · decide
    · exact ascii_lastDigits c hc
  have bytes : d.text.utf8ByteSize = 10 := by
    rw [Day.text, utf8ByteSize_ofList ascii]
    simp [Day.written, length_lastDigits]
  have read := readParts?_written d []
  rw [List.append_nil] at read
  rw [readWritten?, if_pos (by simp [bytes]), Day.text, String.toList_ofList, read]

end DocNumber.Calendar
