import DocNumber.Text.Blank

/-!
Stripped texts. Stripping leaves no blank at either end, and leaves nothing of a text exactly when
it holds blanks only. So it leaves a stripped text alone, and what it takes off is blanks put around
the rest: two texts come out the same exactly when they differ in such blanks only.
-/

namespace DocNumber.Text

/-- Not empty, and no blank at either end. -/
structure Trimmed (s : String) : Prop where
  ne : s ≠ ""
  first : ∀ c, s.toList.head? = some c → isBlank c = false
  last : ∀ c, s.toList.getLast? = some c → isBlank c = false

/-- Where dropping stops, the test fails. -/
theorem not_head_dropWhile {p : Char → Bool} {cs : List Char} {c : Char}
    (h : (cs.dropWhile p).head? = some c) : p c = false := by
  have := List.head?_dropWhile_not p cs
  rw [h] at this
  simpa using this

theorem dropWhile_eq_self {p : Char → Bool} {cs : List Char}
    (first : ∀ c, cs.head? = some c → p c = false) : cs.dropWhile p = cs := by
  cases cs with
  | nil => rfl
  | cons c cs => exact List.dropWhile_cons_of_neg (by simp [first c rfl])

theorem stripEndBy_prefix (p : Char → Bool) (cs : List Char) : stripEndBy p cs <+: cs := by
  rw [stripEndBy, ← List.reverse_suffix, List.reverse_reverse]
  exact List.dropWhile_suffix p

theorem not_head_stripBy {p : Char → Bool} {cs : List Char} {c : Char}
    (h : (stripBy p cs).head? = some c) : p c = false := by
  obtain ⟨rest, hrest⟩ := stripEndBy_prefix p (cs.dropWhile p)
  have first : (cs.dropWhile p).head? = some c := by
    rw [stripBy] at h
    rw [← hrest, List.head?_append, h, Option.some_or]
  exact not_head_dropWhile first

theorem not_getLast_stripBy {p : Char → Bool} {cs : List Char} {c : Char}
    (h : (stripBy p cs).getLast? = some c) : p c = false := by
  rw [stripBy, stripEndBy, List.getLast?_reverse] at h
  exact not_head_dropWhile h

/-- There is nothing to strip where no end is dropped. -/
theorem stripBy_eq_self {p : Char → Bool} {cs : List Char}
    (first : ∀ c, cs.head? = some c → p c = false)
    (last : ∀ c, cs.getLast? = some c → p c = false) : stripBy p cs = cs := by
  have rest : cs.reverse.dropWhile p = cs.reverse := by
    apply dropWhile_eq_self
    rw [List.head?_reverse]
    exact last
  rw [stripBy, dropWhile_eq_self first, stripEndBy, rest, List.reverse_reverse]

theorem stripBy_surrounded {p : Char → Bool} {before after : List Char}
    (hb : before.all p = true) (ha : after.all p = true) (cs : List Char) :
    stripBy p (before ++ cs ++ after) = stripBy p cs := by
  have ending (ds : List Char) : stripEndBy p (ds ++ after) = stripEndBy p ds := by
    rw [stripEndBy, List.reverse_append, List.dropWhile_append_of_pos]
    · rfl
    · intro c hc
      exact List.all_eq_true.mp ha c (List.mem_reverse.mp hc)
  rw [stripBy, List.append_assoc, List.dropWhile_append_of_pos (List.all_eq_true.mp hb),
    List.dropWhile_append]
  split
  · rename_i empty
    rw [(dropWhile_eq_nil_iff_all p after).mpr ha, stripBy, List.isEmpty_iff.mp empty]
  · exact ending _

theorem strip_strip (s : String) : strip (strip s) = strip s := by
  rw [strip, strip, String.toList_ofList,
    stripBy_eq_self (fun _ => not_head_stripBy) (fun _ => not_getLast_stripBy)]

theorem strip_eq_empty_iff (s : String) : strip s = "" ↔ allBlank s = true := by
  rw [strip, String.ofList_eq_empty_iff, stripBy_eq_nil_iff, allBlank]

theorem trimmed_strip {s : String} (h : allBlank s = false) : Trimmed (strip s) where
  ne := by
    intro empty
    rw [(strip_eq_empty_iff s).mp empty] at h
    cases h
  first c hc := not_head_stripBy (by simpa [strip] using hc)
  last c hc := not_getLast_stripBy (by simpa [strip] using hc)

theorem Trimmed.strip_eq {s : String} (h : Trimmed s) : strip s = s := by
  rw [strip, stripBy_eq_self h.first h.last, String.ofList_toList]

theorem Trimmed.not_allBlank {s : String} (h : Trimmed s) : allBlank s = false := by
  rw [Bool.eq_false_iff, ne_eq, ← strip_eq_empty_iff, h.strip_eq]
  exact h.ne

theorem allBlank_eq_of_strip {s t : String} (same : strip s = strip t) :
    allBlank s = allBlank t := by
  rw [Bool.eq_iff_iff, ← strip_eq_empty_iff, ← strip_eq_empty_iff, same]

/-- One text is the other with blanks put around it. -/
def Padded (s t : String) : Prop :=
  ∃ before after : String,
    allBlank before = true ∧ allBlank after = true ∧ t = before ++ s ++ after

theorem Padded.strip_eq {s t : String} (h : Padded s t) : strip t = strip s := by
  obtain ⟨before, after, hb, ha, rfl⟩ := h
  rw [strip, String.toList_append, String.toList_append, stripBy_surrounded hb ha, strip]

/-- What is taken off at the end. -/
theorem stripEndBy_append (p : Char → Bool) (cs : List Char) :
    stripEndBy p cs ++ (cs.reverse.takeWhile p).reverse = cs := by
  rw [stripEndBy, ← List.reverse_append, List.takeWhile_append_dropWhile, List.reverse_reverse]

theorem stripBy_surrounds (p : Char → Bool) (cs : List Char) :
    ∃ before after, before.all p = true ∧ after.all p = true ∧
      cs = before ++ stripBy p cs ++ after := by
  refine ⟨cs.takeWhile p, ((cs.dropWhile p).reverse.takeWhile p).reverse, ?_, ?_, ?_⟩
  · exact List.all_takeWhile
  · rw [List.all_reverse]
    exact List.all_takeWhile
  · rw [List.append_assoc, stripBy, stripEndBy_append, List.takeWhile_append_dropWhile]

theorem padded_strip (s : String) : Padded (strip s) s := by
  obtain ⟨before, after, hb, ha, whole⟩ := stripBy_surrounds isBlank s.toList
  refine ⟨String.ofList before, String.ofList after, ?_, ?_, ?_⟩
  · rwa [allBlank, String.toList_ofList]
  · rwa [allBlank, String.toList_ofList]
  · rw [strip, ← String.ofList_append, ← String.ofList_append, ← whole, String.ofList_toList]

/-- Two texts that differ in the blanks around them only. -/
def Respaced (s t : String) : Prop :=
  ∃ core, Padded core s ∧ Padded core t

theorem respaced_iff {s t : String} : Respaced s t ↔ strip s = strip t := by
  constructor
  · rintro ⟨core, hs, ht⟩
    rw [hs.strip_eq, ht.strip_eq]
  · intro same
    exact ⟨strip s, padded_strip s, same ▸ padded_strip t⟩

end DocNumber.Text
