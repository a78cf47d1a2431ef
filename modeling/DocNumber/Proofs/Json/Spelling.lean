import Mathlib.Data.List.Forall2
import Mathlib.Data.List.TakeWhile
import DocNumber.Json.Reader

/-!
The ways in which JSON spells a list of texts. A character stands for itself where it may, or is
escaped; one outside the basic plane is escaped as a pair of surrogates. White space may stand
around each part. Whichever spelling is taken, the list is read back from it.
-/

namespace DocNumber.Json

/-- The hexadecimal digits, with their values. -/
def hexDigits : List (Char × Nat) :=
  "0123456789abcdef".toList.zipIdx ++ "ABCDEF".toList.zipIdx 10

/-- Four hexadecimal digits. -/
inductive HexFour : Nat → List Char → Prop
  | digits {a b c d : Char × Nat} (ha : a ∈ hexDigits) (hb : b ∈ hexDigits) (hc : c ∈ hexDigits)
      (hd : d ∈ hexDigits) :
      HexFour (((a.2 * 16 + b.2) * 16 + c.2) * 16 + d.2) [a.1, b.1, c.1, d.1]

/-- Characters, each with the letter that stands for it after a backslash. -/
def shortEscapes : List (Char × Char) :=
  [('"', '"'), ('\\', '\\'), ('/', '/'), ('\x08', 'b'), ('\x0c', 'f'), ('\n', 'n'), ('\r', 'r'),
    ('\t', 't')]

inductive SpeltChar : Char → List Char → Prop
  | itself {c : Char} (visible : 32 ≤ c.toNat) (quote : c ≠ '"') (backslash : c ≠ '\\') :
      SpeltChar c [c]
  | short {c e : Char} (listed : (c, e) ∈ shortEscapes) : SpeltChar c ['\\', e]
  | code {c : Char} {cs : List Char} (hex : HexFour c.toNat cs) : SpeltChar c ('\\' :: 'u' :: cs)
  | pair {c : Char} {high low : List Char} (beyond : 0x10000 ≤ c.toNat)
      (hex : HexFour (0xD800 + (c.toNat - 0x10000) / 0x400) high)
      (hex' : HexFour (0xDC00 + (c.toNat - 0x10000) % 0x400) low) :
      SpeltChar c ('\\' :: 'u' :: high ++ '\\' :: 'u' :: low)

/-- A text between quotes, character by character. -/
def SpeltText (s : String) (cs : List Char) : Prop :=
  ∃ parts, List.Forall₂ SpeltChar s.toList parts ∧ cs = '"' :: parts.flatten ++ ['"']

def Blank (cs : List Char) : Prop :=
  ∀ c ∈ cs, c ∈ [' ', '\t', '\n', '\r']

/-- The texts of a list that has some, up to the closing bracket. -/
inductive SpeltItems : List String → List Char → Prop
  | last {s : String} {cs after : List Char} (text : SpeltText s cs) (blank : Blank after) :
      SpeltItems [s] (cs ++ after ++ [']'])
  | cons {s : String} {xs : List String} {cs after before rest : List Char}
      (text : SpeltText s cs) (blank : Blank after) (blank' : Blank before)
      (items : SpeltItems xs rest) : SpeltItems (s :: xs) (cs ++ after ++ ',' :: before ++ rest)

/-- A list of texts, and nothing else but white space. -/
inductive SpeltTexts : List String → List Char → Prop
  | empty {outer inner after : List Char} (blank : Blank outer) (blank' : Blank inner)
      (blank'' : Blank after) : SpeltTexts [] (outer ++ '[' :: inner ++ ']' :: after)
  | items {xs : List String} {outer inner rest after : List Char} (blank : Blank outer)
      (blank' : Blank inner) (blank'' : Blank after) (items : SpeltItems xs rest) :
      SpeltTexts xs (outer ++ '[' :: inner ++ rest ++ after)

/-! ## Characters -/

theorem hexValue?_hexDigits : ∀ d ∈ hexDigits, Text.hexValue? d.1 = some d.2 := by
  decide

theorem simpleEscape?_shortEscapes :
    ∀ p ∈ shortEscapes, p.2 ≠ 'u' ∧ simpleEscape? p.2 = some p.1 := by
  decide

variable {c : Char} {n : Nat} {cs rest start : List Char}

theorem HexFour.length (h : HexFour n cs) : cs.length = 4 := by
  cases h
  rfl

theorem hexFour?_append (h : HexFour n cs) (more : rest ≠ []) :
    hexFour? (cs ++ rest) = some (n, rest) := by
  cases h with
  | digits ha hb hc hd =>
    simp [hexFour?, more, hexValue?_hexDigits _ ha, hexValue?_hexDigits _ hb,
      hexValue?_hexDigits _ hc, hexValue?_hexDigits _ hd]

/-- No character is a surrogate. -/
theorem not_surrogate (c : Char) : ¬(0xD800 ≤ c.toNat ∧ c.toNat ≤ 0xDFFF) := by
  rintro ⟨low, high⟩
  rcases c.valid with h | ⟨h, -⟩
  · have : c.toNat < 0xD800 := h
    omega
  · have : 0xDFFF < c.toNat := h
    omega

theorem charOf_toNat (c : Char) : charOf c.toNat = c := by
  have whole : isHalf c.toNat = false := by
    have := not_surrogate c
    simp only [isHalf, Bool.and_eq_false_iff, decide_eq_false_iff_not]
    omega
  rw [charOf, whole, if_neg Bool.false_ne_true, Char.ofNat_toNat]

theorem readUnicode_code (h : HexFour c.toNat cs) (more : rest ≠ []) :
    readUnicode (cs ++ rest) = .ok (c.toNat, rest) := by
  have plain : (decide (0xD800 ≤ c.toNat) && decide (c.toNat ≤ 0xDBFF)) = false := by
    have := not_surrogate c
    simp only [Bool.and_eq_false_iff, decide_eq_false_iff_not]
    omega
  unfold readUnicode
  rw [hexFour?_append h more]
  simp only [plain, Bool.false_and, Bool.false_eq_true, ↓reduceIte]
  split <;> rfl

theorem readUnicode_pair {high low : List Char} (beyond : 0x10000 ≤ c.toNat)
    (h : HexFour (0xD800 + (c.toNat - 0x10000) / 0x400) high)
    (h' : HexFour (0xDC00 + (c.toNat - 0x10000) % 0x400) low) (more : rest ≠ []) :
    readUnicode (high ++ '\\' :: 'u' :: (low ++ rest)) = .ok (c.toNat, rest) := by
  have bound : c.toNat < 0x110000 := by
    rcases c.valid with h | ⟨-, h⟩
    · have : c.toNat < 0xD800 := h
      omega
    · exact h
  have long : 4 < (low ++ rest).length := by
    have := List.length_pos_iff.mpr more
    rw [List.length_append, h'.length]
    omega
  have is_high : (decide (0xD800 ≤ 0xD800 + (c.toNat - 0x10000) / 0x400) &&
      decide (0xD800 + (c.toNat - 0x10000) / 0x400 ≤ 0xDBFF) &&
      decide (4 < (low ++ rest).length)) = true := by
    simp only [Bool.and_eq_true, decide_eq_true_eq, long, and_true]
    omega
  have is_low : (decide (0xDC00 ≤ 0xDC00 + (c.toNat - 0x10000) % 0x400) &&
      decide (0xDC00 + (c.toNat - 0x10000) % 0x400 ≤ 0xDFFF)) = true := by
    simp only [Bool.and_eq_true, decide_eq_true_eq]
    omega
  have joined : 0x10000 + (0xD800 + (c.toNat - 0x10000) / 0x400 - 0xD800) * 0x400 +
      (0xDC00 + (c.toNat - 0x10000) % 0x400 - 0xDC00) = c.toNat := by
    omega
  simp only [readUnicode, hexFour?_append h (List.cons_ne_nil _ _), is_high, ↓reduceIte,
    hexFour?_append h' more, is_low, joined]

theorem readString_char (fuel : Nat) (h : SpeltChar c cs) (more : rest ≠ []) :
    readString start (fuel + 1) (cs ++ rest) =
      (readString start fuel rest).map fun (s, left) => (c :: s, left) := by
  cases h with
  | itself visible quote backslash =>
    have seen : ¬c.toNat < 32 := by omega
    simp [readString, quote, backslash, seen]
  | @short e listed =>
    obtain ⟨letter, escape⟩ := simpleEscape?_shortEscapes _ listed
    simp [readString, escape]
  | code hex =>
    simp only [List.cons_append, readString, readUnicode_code hex more, charOf_toNat]
    rfl
  | pair beyond hex hex' =>
    simp only [List.cons_append, List.append_assoc, readString,
      readUnicode_pair beyond hex hex' more, charOf_toNat]
    rfl

/-! ## Texts -/

theorem readString_chars {s : List Char} {parts : List (List Char)}
    (h : List.Forall₂ SpeltChar s parts) (start rest : List Char) {fuel : Nat}
    (enough : parts.flatten.length < fuel) :
    readString start fuel (parts.flatten ++ '"' :: rest) = .ok (s, rest) := by
  induction h generalizing fuel with
  | nil =>
    obtain ⟨fuel, rfl⟩ := Nat.exists_eq_add_of_lt enough
    simp [readString]
  | @cons c cs s parts spelt _ ih =>
    have some : 0 < cs.length := by
      cases spelt <;> simp
    rw [List.flatten_cons, List.length_append] at enough
    obtain ⟨fuel, rfl⟩ : ∃ k, fuel = k + 1 := ⟨fuel - 1, by omega⟩
    rw [List.flatten_cons, List.append_assoc, readString_char fuel spelt (by simp),
      ih (by omega)]
    rfl

theorem readValue_text {s : String} (h : SpeltText s cs) (room : Nat) (rest : List Char)
    {fuel : Nat} (enough : cs.length ≤ fuel) :
    readValue room fuel (cs ++ rest) = .ok (.text s, rest) := by
  obtain ⟨parts, spelt, rfl⟩ := h
  simp only [List.cons_append, List.length_cons, List.length_append, List.length_nil] at enough
  obtain ⟨fuel, rfl⟩ : ∃ k, fuel = k + 1 := ⟨fuel - 1, by omega⟩
  simp only [List.cons_append, List.append_assoc, List.nil_append, readValue]
  rw [readString_chars spelt _ _ (by omega)]
  simp only [String.ofList_toList]

/-! ## Lists of texts -/

theorem Blank.isSpace (h : Blank cs) : ∀ c ∈ cs, isSpace c = true := by
  intro c hc
  have listed := h c hc
  simp only [List.mem_cons, List.not_mem_nil, or_false] at listed
  rcases listed with rfl | rfl | rfl | rfl <;> rfl

/-- White space is skipped up to a mark that is none. -/
theorem skipSpace_blank (h : Blank cs) (mark : Char) (stop : isSpace mark = false)
    (rest : List Char) : skipSpace (cs ++ mark :: rest) = mark :: rest := by
  unfold skipSpace
  rw [List.dropWhile_append_of_pos h.isSpace, List.dropWhile_cons_of_neg (by simp [stop])]

theorem SpeltText.quote {s : String} (h : SpeltText s cs) : ∃ more, cs = '"' :: more := by
  obtain ⟨parts, -, rfl⟩ := h
  exact ⟨_, rfl⟩

theorem SpeltItems.quote {xs : List String} (h : SpeltItems xs cs) :
    ∃ more, cs = '"' :: more := by
  cases h with
  | last text | cons text =>
    obtain ⟨more, rfl⟩ := text.quote
    exact ⟨_, rfl⟩

theorem readItems_spelt {xs : List String} (h : SpeltItems xs cs) (room : Nat) (rest : List Char)
    {fuel : Nat} (enough : cs.length < fuel) :
    readItems room fuel (cs ++ rest) = .ok (xs.map .text, rest) := by
  induction h generalizing fuel with
  | last text blank =>
    simp only [List.length_append, List.length_cons, List.length_nil] at enough
    obtain ⟨fuel, rfl⟩ : ∃ k, fuel = k + 1 := ⟨fuel - 1, by omega⟩
    simp only [List.append_assoc, List.cons_append, List.nil_append, readItems]
    rw [readValue_text text _ _ (by omega)]
    simp only [skipSpace_blank blank ']' rfl, List.map_cons, List.map_nil]
  | @cons s xs _ _ _ items' text blank blank' items ih =>
    simp only [List.length_append, List.length_cons] at enough
    obtain ⟨fuel, rfl⟩ : ∃ k, fuel = k + 1 := ⟨fuel - 1, by omega⟩
    have next := ih (show _ < fuel by omega)
    obtain ⟨more, rfl⟩ := items.quote
    rw [List.cons_append] at next
    simp only [List.append_assoc, List.cons_append, readItems]
    rw [readValue_text text _ _ (by omega)]
    simp only [skipSpace_blank blank ',' rfl, skipSpace_blank blank' '"' rfl, next]
    rfl

/-- Whatever white space there is before the bracket and after the value. -/
theorem readAll_bracket (h : Blank cs) {room : Nat} {v : Json} {left : List Char}
    (read : ∀ fuel, rest.length < fuel →
      readValue (room + 1) (fuel + 1) ('[' :: rest) = .ok (v, left))
    (blank : Blank left) : readAll room (cs ++ '[' :: rest) = .ok v := by
  have unmarked : ∀ more, cs ++ '[' :: rest ≠ '\uFEFF' :: more := by
    intro more same
    cases cs with
    | nil => simp at same
    | cons c cs =>
      obtain ⟨rfl, -⟩ := List.cons.inj same
      simpa using h _ List.mem_cons_self
  have ended : skipSpace left = [] := List.dropWhile_eq_nil_iff.mpr blank.isSpace
  have read := read (2 * (cs ++ '[' :: rest).length + 1) (by
    simp only [List.length_append, List.length_cons]
    omega)
  unfold readAll
  split
  · rename_i more same
    exact absurd same (unmarked more)
  · simp only [skipSpace_blank h '[' rfl, read, ended]

/-- Every spelling of a list of texts is read as that list; it takes no more than one level. -/
theorem readAll_spelt {xs : List String} (h : SpeltTexts xs cs) (room : Nat) :
    readAll room cs = .ok (.list (xs.map .text)) := by
  cases h with
  | empty blank blank' blank'' =>
    simp only [List.append_assoc, List.cons_append]
    apply readAll_bracket blank _ blank''
    intro fuel _
    simp only [readValue, skipSpace_blank blank' ']' rfl, List.map_nil]
  | items blank blank' blank'' items =>
    simp only [List.append_assoc, List.cons_append]
    apply readAll_bracket blank _ blank''
    intro fuel enough
    simp only [List.length_append] at enough
    rename_i rest after
    have read := readItems_spelt items room after (show rest.length < fuel by omega)
    obtain ⟨more, rfl⟩ := items.quote
    rw [List.cons_append] at read
    simp [readValue, skipSpace_blank blank' '"' rfl, read, Except.map]

theorem read_spelt {xs : List String} (h : SpeltTexts xs cs) (room : Nat) :
    read room (String.ofList cs) = .ok (.list (xs.map .text)) := by
  simp only [read, String.toList_ofList, readAll_spelt h room, Except.mapError]

end DocNumber.Json
