import DocNumber.Proofs.Text.Blank
import DocNumber.Rule.Draft

/-!
The normal form of codes. That of a list holds what is left of each code that is not blank, once, in
the order of first occurrence (`firstOccurrences_normalCodes`): one code more keeps it so, and a
list is gone through one code at a time. That of a department is what is left of it, if anything.
-/

namespace DocNumber.Draft

variable {given kept known codes : List String} {code c : String}

/-! ## Document types -/

/-- What is left of the codes that are not blank. -/
def written (codes : List String) : List String :=
  (codes.filter fun code => !Text.allBlank code).map Text.strip

theorem mem_written :
    c ∈ written codes ↔ ∃ code ∈ codes, Text.allBlank code = false ∧ c = Text.strip code := by
  simp only [written, List.mem_map, List.mem_filter, Bool.not_eq_true', and_assoc, eq_comm (a := c)]

theorem written_concat (codes : List String) (code : String) :
    written (codes ++ [code]) =
      if Text.allBlank code = true then written codes else written codes ++ [Text.strip code] := by
  unfold written
  rw [List.filter_append, List.map_append]
  cases hb : Text.allBlank code <;> simp [hb]

/-- The members of `given`, each once, in the order in which they first occur. -/
structure FirstOccurrences (given kept : List String) : Prop where
  mem : ∀ c, c ∈ kept ↔ c ∈ given
  ordered : kept.Pairwise fun a b => given.idxOf a < given.idxOf b

namespace FirstOccurrences

theorem nodup (h : FirstOccurrences given kept) : kept.Nodup := by
  apply h.ordered.imp
  intro a b lt same
  rw [same] at lt
  exact Nat.lt_irrefl _ lt

/-- One member more is kept if it is not there yet. -/
theorem concat (h : FirstOccurrences given kept) (c : String) :
    FirstOccurrences (given ++ [c]) (if c ∈ kept then kept else kept ++ [c]) := by
  have place {a : String} (ha : a ∈ kept) : (given ++ [c]).idxOf a = given.idxOf a := by
    rw [List.idxOf_append, if_pos ((h.mem a).mp ha)]
  have ordered : kept.Pairwise fun a b => (given ++ [c]).idxOf a < (given ++ [c]).idxOf b := by
    apply h.ordered.imp_of_mem
    intro a b ha hb lt
    rw [place ha, place hb]
    exact lt
  split
  · rename_i old
    refine ⟨fun a => ?_, ordered⟩
    rw [List.mem_append, List.mem_singleton, ← h.mem]
    exact ⟨.inl, fun either => either.elim id fun same => same ▸ old⟩
  · rename_i new
    refine ⟨fun a => by simp only [List.mem_append, h.mem], ?_⟩
    rw [List.pairwise_append]
    refine ⟨ordered, List.pairwise_singleton _ _, ?_⟩
    intro a ha b hb
    obtain rfl := List.mem_singleton.mp hb
    have last : (given ++ [b]).idxOf b = given.length := by
      rw [List.idxOf_append, if_neg (mt (h.mem b).mpr new), List.idxOf_cons_self, Nat.zero_add]
    rw [place ha, last]
    exact List.idxOf_lt_length_iff.mpr ((h.mem a).mp ha)

end FirstOccurrences

theorem addCode_eq (known : List String) (code : String) :
    addCode known code =
      if Text.allBlank code = true then known
      else if Text.strip code ∈ known then known else known ++ [Text.strip code] := by
  have blank : (Text.strip code).isEmpty = Text.allBlank code := by
    rw [Bool.eq_iff_iff, String.isEmpty_iff, Text.strip_eq_empty_iff]
  unfold addCode
  dsimp only
  rw [blank]
  cases Text.allBlank code <;> simp

theorem firstOccurrences_addCode (h : FirstOccurrences (written codes) known) (code : String) :
    FirstOccurrences (written (codes ++ [code])) (addCode known code) := by
  rw [addCode_eq, written_concat]
  split
  · exact h
  · exact h.concat (Text.strip code)

theorem firstOccurrences_normalCodes (codes : List String) :
    FirstOccurrences (written codes) (normalCodes codes) := by
  have fold : ∀ given done known : List String, FirstOccurrences (written done) known →
      FirstOccurrences (written (done ++ given)) (given.foldl addCode known) := by
    intro given
    induction given with
    | nil =>
      intro done known h
      rw [List.append_nil]
      exact h
    | cons code given ih =>
      intro done known h
      rw [List.append_cons]
      exact ih _ _ (firstOccurrences_addCode h code)
  exact fold codes [] [] ⟨fun c => Iff.rfl, List.Pairwise.nil⟩

theorem mem_normalCodes :
    c ∈ normalCodes codes ↔ ∃ code ∈ codes, Text.allBlank code = false ∧ c = Text.strip code :=
  ((firstOccurrences_normalCodes codes).mem c).trans mem_written

theorem normalCodes_ne_nil_iff :
    normalCodes codes ≠ [] ↔ ∃ code ∈ codes, Text.allBlank code = false := by
  constructor
  · intro listed
    obtain ⟨c, hc⟩ := List.exists_mem_of_ne_nil _ listed
    obtain ⟨code, member, written, -⟩ := mem_normalCodes.mp hc
    exact ⟨code, member, written⟩
  · rintro ⟨code, member, written⟩
    exact List.ne_nil_of_mem (mem_normalCodes.mpr ⟨code, member, written, rfl⟩)

theorem nodup_normalCodes (codes : List String) : (normalCodes codes).Nodup :=
  (firstOccurrences_normalCodes codes).nodup

theorem trimmed_of_mem_normalCodes (h : c ∈ normalCodes codes) : Text.Trimmed c := by
  obtain ⟨code, -, written, rfl⟩ := mem_normalCodes.mp h
  exact Text.trimmed_strip written

/-! ## The department -/

theorem normalDepartment_some (code : String) :
    normalDepartment (some code) =
      if Text.allBlank code = true then none else some (Text.strip code) := by
  simp only [normalDepartment, String.isEmpty_iff, Text.strip_eq_empty_iff]

theorem normalDepartment_eq_some {department : Option String} :
    normalDepartment department = some c ↔
      ∃ code, department = some code ∧ Text.allBlank code = false ∧ c = Text.strip code := by
  cases department with
  | none => simp [normalDepartment]
  | some code =>
    simp only [normalDepartment_some, Option.some.injEq, exists_eq_left']
    cases Text.allBlank code <;> simp [eq_comm]

end DocNumber.Draft
