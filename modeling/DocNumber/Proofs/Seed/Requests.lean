import DocNumber.Proofs.Calendar.Twofold
import DocNumber.Proofs.Fields
import DocNumber.Proofs.Template.Grammar
import DocNumber.Seed.Rows

/-!
A row of a seed file and the same object sent as a request. Where both are accepted they are one
draft, but for dates without dashes that are counts of seconds too.
-/

namespace DocNumber.Seed

variable {room : Nat} {ms : Json.Members} {a b d : Draft}

/-! ## What the fields say -/

/-- A draft that a request asks for, field by field. -/
theorem ofMembers_eq_ok (h : Draft.ofMembers ms = .ok d) :
    Fields.required ms "rule_name" Fields.readText = .ok d.name ∧
    Fields.required ms "template" Fields.readText = .ok d.template ∧
    Fields.required ms "sequence_digits" Fields.readInt = .ok d.digits ∧
    Fields.optional ms "department_code" none (Fields.nullable Fields.readText) =
      .ok d.department ∧
    Fields.optional ms "document_type_codes" [] (Fields.readList Fields.readText) = .ok d.types ∧
    Fields.required ms "effective_from" Fields.readDay = .ok d.window.first ∧
    Fields.optional ms "effective_until" none (Fields.nullable Fields.readDay) =
      .ok d.window.last ∧
    Fields.optional ms "priority" 0 Fields.readInt = .ok d.priority := by
  unfold Draft.ofMembers at h
  dsimp only at h
  obtain ⟨_, _, seven, priority, rfl⟩ := (Fields.Checked.ap_eq_ok_iff _ _ _).mp h
  obtain ⟨_, _, six, last, rfl⟩ := (Fields.Checked.ap_eq_ok_iff _ _ _).mp seven
  obtain ⟨_, _, five, first, rfl⟩ := (Fields.Checked.ap_eq_ok_iff _ _ _).mp six
  obtain ⟨_, _, four, types, rfl⟩ := (Fields.Checked.ap_eq_ok_iff _ _ _).mp five
  obtain ⟨_, _, three, department, rfl⟩ := (Fields.Checked.ap_eq_ok_iff _ _ _).mp four
  obtain ⟨_, _, two, digits, rfl⟩ := (Fields.Checked.ap_eq_ok_iff _ _ _).mp three
  obtain ⟨_, _, one, template, rfl⟩ := (Fields.Checked.ap_eq_ok_iff _ _ _).mp two
  obtain ⟨_, name, rfl⟩ := Template.map_eq_ok_iff.mp one
  exact ⟨name, template, digits, department, types, first, last, priority⟩

theorem draft_eq_ok {rule : String} {types : List String} {first : Calendar.Day}
    {last : Option Calendar.Day} (h : draft rule ms types first last = .ok d) :
    d.name = rule ∧ d.types = types ∧ d.window = ⟨first, last⟩ ∧
    Fields.readText (get ms "template" (.text "")) = .ok d.template ∧
    Fields.readInt (get ms "sequence_digits" (.int 0)) = .ok d.digits ∧
    Fields.nullable Fields.readText (get ms "department_code" .null) = .ok d.department ∧
    Fields.readInt (get ms "priority" (.int 0)) = .ok d.priority := by
  unfold draft at h
  dsimp only at h
  obtain ⟨_, _, three, priority, rfl⟩ := (Fields.Checked.ap_eq_ok_iff _ _ _).mp h
  obtain ⟨_, _, two, department, rfl⟩ := (Fields.Checked.ap_eq_ok_iff _ _ _).mp three
  obtain ⟨_, _, one, digits, rfl⟩ := (Fields.Checked.ap_eq_ok_iff _ _ _).mp two
  obtain ⟨_, _, made, template, rfl⟩ := (Fields.Checked.ap_eq_ok_iff _ _ _).mp one
  obtain rfl := Except.ok.inj made
  exact ⟨rfl, rfl, rfl, Fields.under_eq_ok template, Fields.under_eq_ok digits,
    Fields.under_eq_ok department, Fields.under_eq_ok priority⟩

/-- A draft that a row is read as, field by field. -/
theorem readMembers_eq_ok (h : readMembers room ms = .ok d) :
    d.name = (get ms "rule_name" (.text "")).plain ∧
    Fields.readText (get ms "template" (.text "")) = .ok d.template ∧
    Fields.readInt (get ms "sequence_digits" (.int 0)) = .ok d.digits ∧
    Fields.nullable Fields.readText (get ms "department_code" .null) = .ok d.department ∧
    readTypes room d.name (get ms "document_type_codes" (.list [])) = .ok d.types ∧
    readDay "effective_from" d.name (get ms "effective_from" .null) =
      .ok (some d.window.first) ∧
    readDay "effective_until" d.name (get ms "effective_until" .null) = .ok d.window.last ∧
    Fields.readInt (get ms "priority" (.int 0)) = .ok d.priority := by
  unfold readMembers at h
  obtain ⟨found, first, h⟩ := Fields.bind_eq_ok h
  cases found with
  | none => cases h
  | some day =>
    obtain ⟨codes, types, h⟩ := Fields.bind_eq_ok h
    obtain ⟨ending, last, h⟩ := Fields.bind_eq_ok h
    obtain ⟨name, same, window, template, digits, department, priority⟩ :=
      draft_eq_ok (Fields.mapError_eq_ok h)
    rw [name, same, window]
    exact ⟨rfl, template, digits, department, types, first, last, priority⟩

/-! ## Days -/

/-- What a field says is a date without dashes and a count of seconds. -/
def Twofold (ms : Json.Members) (field : String) : Prop :=
  ∃ v, Json.Members.find? ms field = some v ∧ Calendar.Twofold v.plain.toList

theorem readDay_eq_iff {field rule : String} {v : Json} {a b : Calendar.Day}
    (row : readDay field rule v = .ok (some a)) (request : Fields.readDay v = .ok b) :
    a = b ↔ ¬Calendar.Twofold v.plain.toList := by
  have written : Calendar.readWritten? v.plain = some a := by
    unfold readDay at row
    split at row
    · cases row
    · cases row
    · split at row
      · rename_i found
        obtain rfl := Option.some.inj (Except.ok.inj row)
        exact found
      · cases row
  cases v with
  | null | bool | list | object => cases request
  | text s => exact Calendar.ofText_eq_iff written (Fields.mapError_eq_ok request)
  | int n =>
    have same := Calendar.ofInt_eq_iff written (Fields.mapError_eq_ok request)
    rwa [← String.toList_ofList (l := Text.integer n)] at same
  | real x => exact absurd (Fields.mapError_eq_ok request) (Calendar.not_ofReal written)

/-- No last day is no last day to both. -/
theorem readLast_eq_iff {field rule : String} {v : Json} {a b : Option Calendar.Day}
    (row : readDay field rule v = .ok a)
    (request : Fields.nullable Fields.readDay v = .ok b) :
    a = b ↔ ¬Calendar.Twofold v.plain.toList := by
  by_cases null : v = .null
  · subst null
    obtain rfl := Except.ok.inj row
    obtain rfl := Except.ok.inj request
    refine iff_of_true rfl ?_
    intro twofold
    cases twofold.length
  · obtain ⟨day, read, rfl⟩ : ∃ day, Fields.readDay v = .ok day ∧ some day = b := by
      cases v with
      | null => exact absurd rfl null
      | bool | int | real | text | list | object => exact Template.map_eq_ok_iff.mp request
    cases a with
    | some first => rw [Option.some.injEq, readDay_eq_iff row read]
    | none =>
      unfold readDay at row
      split at row
      · exact absurd rfl null
      · cases read
      · split at row <;> cases row

/-! ## Codes -/

theorem plain_of_texts {items : List Json} {n : Nat} {types : List String}
    (h : Fields.readFrom Fields.readText n items = .ok types) : items.map Json.plain = types := by
  induction items generalizing n types with
  | nil => exact Except.ok.inj h
  | cons v vs ih =>
    obtain ⟨_, rest, head, tail, rfl⟩ := (Fields.Checked.ap_eq_ok_iff _ _ _).mp h
    obtain ⟨s, read, rfl⟩ := Template.map_eq_ok_iff.mp head
    cases v with
    | text s' =>
      obtain rfl := Except.ok.inj (Fields.under_eq_ok read)
      rw [List.map_cons, ih tail]
      rfl
    | null | bool | int | real | list | object => cases Fields.under_eq_ok read

theorem readTypes_eq {rule : String} {v : Json} {a b : List String}
    (row : readTypes room rule v = .ok a)
    (request : Fields.readList Fields.readText v = .ok b) : a = b := by
  cases v with
  | list items =>
    obtain rfl := Except.ok.inj row
    exact plain_of_texts request
  | null | bool | int | real | text | object => cases request

/-! ## The whole row -/

theorem get_of_found {field : String} {default v : Json}
    (found : Json.Members.find? ms field = some v) : get ms field default = v := by
  rw [get, found, Option.getD_some]

theorem get_of_missing {field : String} {default : Json}
    (missing : Json.Members.find? ms field = none) : get ms field default = default := by
  rw [get, missing, Option.getD_none]

section Alike

variable {α : Type} {read : Json → Fields.Checked α} {field : String} {default : Json} {x y : α}

/-- A field that both read in one way. -/
theorem required_eq (row : read (get ms field default) = .ok x)
    (request : Fields.required ms field read = .ok y) : x = y := by
  obtain ⟨v, found, same⟩ := Fields.required_eq_ok request
  rw [get_of_found found] at row
  exact Except.ok.inj (row.symm.trans same)

theorem optional_eq {none : α} (row : read (get ms field default) = .ok x)
    (left : read default = .ok none) (request : Fields.optional ms field none read = .ok y) :
    x = y := by
  rcases Fields.optional_eq_ok request with ⟨missing, rfl⟩ | ⟨v, found, same⟩
  · rw [get_of_missing missing] at row
    exact Except.ok.inj (row.symm.trans left)
  · rw [get_of_found found] at row
    exact Except.ok.inj (row.symm.trans same)

end Alike

theorem twofold_iff {field : String} {v : Json} (found : Json.Members.find? ms field = some v) :
    Twofold ms field ↔ Calendar.Twofold v.plain.toList := by
  simp [Twofold, found]

theorem first_eq_iff {rule : String} {x y : Calendar.Day}
    (row : readDay "effective_from" rule (get ms "effective_from" .null) = .ok (some x))
    (request : Fields.required ms "effective_from" Fields.readDay = .ok y) :
    x = y ↔ ¬Twofold ms "effective_from" := by
  obtain ⟨v, found, read⟩ := Fields.required_eq_ok request
  rw [get_of_found found] at row
  rw [twofold_iff found]
  exact readDay_eq_iff row read

theorem last_eq_iff {rule : String} {x y : Option Calendar.Day}
    (row : readDay "effective_until" rule (get ms "effective_until" .null) = .ok x)
    (request : Fields.optional ms "effective_until" none (Fields.nullable Fields.readDay) = .ok y) :
    x = y ↔ ¬Twofold ms "effective_until" := by
  rcases Fields.optional_eq_ok request with ⟨missing, rfl⟩ | ⟨v, found, read⟩
  · rw [get_of_missing missing] at row
    obtain rfl := Except.ok.inj row
    simp [Twofold, missing]
  · rw [get_of_found found] at row
    rw [twofold_iff found]
    exact readLast_eq_iff row read

/-- An object that is accepted as a row and as a request is one draft in all but its days, and
there too unless a day is twofold. -/
theorem readings_eq_iff (row : readMembers room ms = .ok a)
    (request : Draft.ofMembers ms = .ok b) :
    { a with window := b.window } = b ∧
      (a.window.first = b.window.first ↔ ¬Twofold ms "effective_from") ∧
      (a.window.last = b.window.last ↔ ¬Twofold ms "effective_until") ∧
      (a = b ↔ ¬Twofold ms "effective_from" ∧ ¬Twofold ms "effective_until") := by
  obtain ⟨name, template, digits, department, types, first, last, priority⟩ :=
    readMembers_eq_ok row
  obtain ⟨name', template', digits', department', types', first', last', priority'⟩ :=
    ofMembers_eq_ok request
  have names : a.name = b.name := by
    obtain ⟨v, found, read⟩ := Fields.required_eq_ok name'
    rw [get_of_found found] at name
    cases v with
    | text s => exact name.trans (Except.ok.inj read)
    | null | bool | int | real | list | object => cases read
  have codes : a.types = b.types := by
    rcases Fields.optional_eq_ok types' with ⟨missing, same⟩ | ⟨v, found, read⟩
    · rw [get_of_missing missing] at types
      exact (Except.ok.inj types).symm.trans same.symm
    · rw [get_of_found found] at types
      exact readTypes_eq types read
  have rest : { a with window := b.window } = b := by
    obtain ⟨_, _, _, _, _, _, _⟩ := b
    simp only [names, codes, required_eq template template', required_eq digits digits',
      optional_eq department rfl department', optional_eq priority rfl priority']
  have starts := first_eq_iff first first'
  have ends := last_eq_iff last last'
  refine ⟨rest, starts, ends, ?_⟩
  rw [← starts, ← ends]
  constructor
  · rintro rfl
    exact ⟨rfl, rfl⟩
  · rintro ⟨from_eq, endingeq⟩
    have window : ∀ v w : Window, v.first = w.first → v.last = w.last → v = w := by
      rintro ⟨_, _⟩ ⟨_, _⟩ rfl rfl
      rfl
    rw [← rest, ← window _ _ from_eq endingeq]

/-- A rule that ends on 20 March 2020 to one reader and on 27 May 1976 to the other. -/
theorem readings_eq_iff_split :
    let row : Json.Members :=
      [("rule_name", .text "Invoices"), ("template", .text "\x7bseq\x7d"),
        ("sequence_digits", .int 3), ("document_type_codes", .list [.text "INV"]),
        ("effective_from", .text "2020-01-01"), ("effective_until", .text "202003200.")]
    let rule : Draft :=
      ⟨"Invoices", "\x7bseq\x7d", 3, none, ["INV"], ⟨⟨2020, 1, 1, by decide⟩, none⟩, 0⟩
    let a := { rule with window.last := some ⟨2020, 3, 20, by decide⟩ }
    let b := { rule with window.last := some ⟨1976, 5, 27, by decide⟩ }
    readMembers Depths.usual.codes row = .ok a ∧ Draft.ofMembers row = .ok b ∧
      ¬Twofold row "effective_from" ∧ Twofold row "effective_until" := by
  intro row rule a b
  have read : readMembers Depths.usual.codes row = .ok a := by with_unfolding_all rfl
  have request : Draft.ofMembers row = .ok b := by with_unfolding_all rfl
  obtain ⟨-, first, last, -⟩ := readings_eq_iff read request
  refine ⟨read, request, first.mp rfl, ?_⟩
  by_contra other
  cases last.mpr other

/-- The same for a first day. -/
theorem readings_differ :
    let row : Json.Members :=
      [("rule_name", .text "Invoices"), ("template", .text "\x7bseq\x7d"),
        ("sequence_digits", .int 3), ("document_type_codes", .list [.text "INV"]),
        ("effective_from", .text "2020032000")]
    ∃ a b, readMembers Depths.usual.codes row = .ok a ∧ Draft.ofMembers row = .ok b ∧
      a.window.first = ⟨2020, 3, 20, by decide⟩ ∧ b.window.first = ⟨2034, 1, 5, by decide⟩ ∧
      a ≠ b := by
  intro row
  refine ⟨⟨"Invoices", "\x7bseq\x7d", 3, none, ["INV"], ⟨⟨2020, 3, 20, by decide⟩, none⟩, 0⟩,
    ⟨"Invoices", "\x7bseq\x7d", 3, none, ["INV"], ⟨⟨2034, 1, 5, by decide⟩, none⟩, 0⟩, ?_, ?_, rfl,
    rfl, by decide⟩
  · with_unfolding_all rfl
  · with_unfolding_all rfl

end DocNumber.Seed
