import DocNumber.Proofs.Rule.Draft
import Mathlib.Logic.Relation

/-!
Drafts that say the same in different spellings. Acceptance sees no more of a draft than its normal
form (`accept_normalize`), which is its own normal form; and blanks around a text, blank or repeated
codes and a blank department are gone in it. So drafts that differ in nothing else are accepted as
one and the same draft, or refused alike.
-/

namespace DocNumber.Draft

variable {codes codes' : List String} {d d' : Draft}

/-! ## The normal form is its own -/

theorem normalCodes_eq_self (trimmed : ∀ code ∈ codes, Text.Trimmed code) (distinct : codes.Nodup) :
    normalCodes codes = codes := by
  have fold : ∀ given known : List String, (∀ code ∈ given, Text.Trimmed code) →
      (known ++ given).Nodup → given.foldl addCode known = known ++ given := by
    intro given
    induction given with
    | nil =>
      intro known _ _
      rw [List.append_nil, List.foldl_nil]
    | cons code given ih =>
      intro known trimmed distinct
      have here : Text.Trimmed code := trimmed code List.mem_cons_self
      have new : code ∉ known := by
        intro old
        exact (List.nodup_append.mp distinct).2.2 code old code List.mem_cons_self rfl
      have added : addCode known code = known ++ [code] := by
        rw [addCode_eq, here.not_allBlank, here.strip_eq, if_neg new]
        rfl
      rw [List.append_cons] at distinct ⊢
      rw [List.foldl_cons, added]
      exact ih _ (fun c hc => trimmed c (List.mem_cons_of_mem _ hc)) distinct
  exact fold codes [] trimmed distinct

theorem normalCodes_normalCodes (codes : List String) :
    normalCodes (normalCodes codes) = normalCodes codes :=
  normalCodes_eq_self (fun _ => trimmed_of_mem_normalCodes) (nodup_normalCodes codes)

theorem normalDepartment_normalDepartment (department : Option String) :
    normalDepartment (normalDepartment department) = normalDepartment department := by
  cases department with
  | none => rfl
  | some code =>
    rw [normalDepartment_some]
    split
    · rfl
    · rename_i written
      rw [normalDepartment_some, Text.allBlank_eq_of_strip (Text.strip_strip code), if_neg written,
        Text.strip_strip]

theorem normalize_normalize (d : Draft) : d.normalize.normalize = d.normalize := by
  simp only [normalize, Text.strip_strip, normalCodes_normalCodes,
    normalDepartment_normalDepartment]

theorem Condition.refusal?_normalize (d : Draft) (c : Condition) :
    c.refusal? d.normalize = c.refusal? d := by
  cases c with
  | name =>
    simp only [refusal?, normalize, Text.allBlank_eq_of_strip (Text.strip_strip d.name)]
  | types => simp only [refusal?, normalize, normalCodes_normalCodes]
  | template | digits | period | parsed => rfl

/-- Nothing that is wrong with a draft is lost in its normal form, and nothing added. -/
theorem refusal?_normalize (d : Draft) : d.normalize.refusal? = d.refusal? := by
  rw [refusal?_eq_findSome?, refusal?_eq_findSome?, funext (Condition.refusal?_normalize d)]

theorem accept_normalize (d : Draft) : d.normalize.accept = d.accept := by
  simp only [accept, refusal?_normalize, normalize_normalize]

/-! ## Spellings -/

/-- One change to a list of codes that leaves what it lists. -/
inductive RespeltCodes : List String → List String → Prop
  | padded (before after : List String) {code code' : String} (h : Text.Padded code code') :
      RespeltCodes (before ++ code :: after) (before ++ code' :: after)
  | blank (before after : List String) {code : String} (h : Text.allBlank code = true) :
      RespeltCodes (before ++ after) (before ++ code :: after)
  | repeated (before after : List String) {code again : String} (earlier : code ∈ before)
      (h : Text.strip again = Text.strip code) :
      RespeltCodes (before ++ after) (before ++ again :: after)

/-- One change to a draft that leaves what it asks for. -/
inductive Respelt : Draft → Draft → Prop
  | name (d : Draft) {name : String} (h : Text.Padded d.name name) : Respelt d { d with name }
  | department (d : Draft) {code code' : String} (given : d.department = some code)
      (h : Text.Padded code code') : Respelt d { d with department := some code' }
  | noDepartment (d : Draft) {code : String} (absent : d.department = none)
      (h : Text.allBlank code = true) : Respelt d { d with department := some code }
  | types (d : Draft) {codes : List String} (h : RespeltCodes d.types codes) :
      Respelt d { d with types := codes }

theorem RespeltCodes.normalCodes_eq (h : RespeltCodes codes codes') :
    normalCodes codes' = normalCodes codes := by
  -- Up to the change both lists have come to the same codes.
  have split (before after : List String) :
      normalCodes (before ++ after) = after.foldl addCode (normalCodes before) :=
    List.foldl_append
  cases h with
  | padded before after h =>
    have same := h.strip_eq
    rw [split, split, List.foldl_cons, List.foldl_cons, addCode_eq, addCode_eq, same,
      Text.allBlank_eq_of_strip same]
  | blank before after h =>
    rw [split, split, List.foldl_cons, addCode_eq, if_pos h]
  | @repeated before after code again earlier same =>
    have known : addCode (normalCodes before) again = normalCodes before := by
      rw [addCode_eq, same, Text.allBlank_eq_of_strip same]
      split
      · rfl
      · rename_i written
        rw [if_pos (mem_normalCodes.mpr ⟨code, earlier, Bool.eq_false_iff.mpr written, rfl⟩)]
    rw [split, split, List.foldl_cons, known]

theorem Respelt.normalize_eq (h : Respelt d d') : d.normalize = d'.normalize := by
  cases h with
  | name h => simp only [normalize, h.strip_eq]
  | department given h =>
    simp only [normalize, given, normalDepartment_some, h.strip_eq,
      Text.allBlank_eq_of_strip h.strip_eq]
  | @noDepartment code absent h =>
    have none : normalDepartment (some code) = normalDepartment d.department := by
      rw [normalDepartment_some, if_pos h, absent]
      rfl
    simp only [normalize, none]
  | types h => simp only [normalize, h.normalCodes_eq]

/-- What is accepted is accepted as it is, and drafts that differ in spelling only have the same
normal form or the same fault. -/
theorem accept_respelt :
    (∀ d d' : Draft, d.accept = .ok d' → d'.accept = .ok d') ∧
    ∀ d d' : Draft, Relation.EqvGen Respelt d d' → d.accept = d'.accept := by
  constructor
  · intro d d' accepted
    obtain ⟨-, rfl⟩ := accept_ok_iff.mp accepted
    rw [accept_normalize]
    exact accepted
  · intro d d' respelt
    induction respelt with
    | rel d d' step => rw [← accept_normalize d, ← accept_normalize d', step.normalize_eq]
    | refl d => rfl
    | symm d d' _ ih => exact ih.symm
    | trans d d' d'' _ _ first second => exact first.trans second

/-- Blanks around the name and a code, a blank code, a code once more and a blank department. -/
theorem accept_respelt_serial :
    let plain : Draft :=
      { name := "Serial", template := "\x7bseq\x7d", digits := 3, department := none,
        types := ["T", "B"], window := ⟨⟨2025, 1, 1, by decide⟩, none⟩, priority := 1 }
    let spaced : Draft :=
      { plain with name := " Serial\t", department := some " ", types := [" T", "", "B", "T "] }
    plain.accept = spaced.accept ∧
      spaced.normalize.accept = .ok spaced.normalize := by
  intro plain spaced
  have name : Respelt plain { plain with name := " Serial\t" } :=
    .name plain ⟨" ", "\t", by decide +kernel, by decide +kernel, rfl⟩
  have department : Respelt { plain with name := " Serial\t" }
      { plain with name := " Serial\t", department := some " " } :=
    .noDepartment _ rfl (by decide +kernel)
  have padded : Respelt { plain with name := " Serial\t", department := some " " }
      { spaced with types := [" T", "B"] } :=
    .types _ (.padded [] ["B"] ⟨" ", "", by decide +kernel, by decide +kernel, rfl⟩)
  have blank : Respelt { spaced with types := [" T", "B"] }
      { spaced with types := [" T", "", "B"] } :=
    .types _ (.blank [" T"] ["B"] (by decide +kernel))
  have repeated : Respelt { spaced with types := [" T", "", "B"] } spaced :=
    .types _ (.repeated [" T", "", "B"] [] (show " T" ∈ _ by decide) (by decide +kernel))
  have accepted : spaced.accept = .ok spaced.normalize :=
    accept_ok_iff.mpr ⟨by decide +kernel, rfl⟩
  refine ⟨accept_respelt.2 plain spaced ?_, accept_respelt.1 spaced _ accepted⟩
  exact .trans _ _ _ (.rel _ _ name) (.trans _ _ _ (.rel _ _ department)
    (.trans _ _ _ (.rel _ _ padded) (.trans _ _ _ (.rel _ _ blank) (.rel _ _ repeated))))

end DocNumber.Draft
