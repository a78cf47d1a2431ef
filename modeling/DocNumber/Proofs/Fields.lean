import DocNumber.Fields.Read

/-!
What a field says that was read without an issue.
-/

namespace DocNumber.Fields

variable {α : Type} {ms : Json.Members} {name : String} {default a : α} {read : Json → Checked α}

theorem bind_eq_ok {ε β γ : Type} {x : Except ε β} {f : β → Except ε γ} {c : γ}
    (h : x >>= f = .ok c) : ∃ b, x = .ok b ∧ f b = .ok c := by
  cases x with
  | error => cases h
  | ok b => exact ⟨b, rfl, h⟩

theorem mapError_eq_ok {ε ε' β : Type} {f : ε → ε'} {x : Except ε β} {b : β}
    (h : x.mapError f = .ok b) : x = .ok b := by
  cases x with
  | error => cases h
  | ok => exact congrArg Except.ok (Except.ok.inj h)

theorem under_eq_ok {step : Step} {x : Checked α} (h : Checked.under step x = .ok a) :
    x = .ok a :=
  mapError_eq_ok h

theorem required_eq_ok (h : required ms name read = .ok a) :
    ∃ v, Json.Members.find? ms name = some v ∧ read v = .ok a := by
  unfold required at h
  split at h
  · cases h
  · rename_i v found
    exact ⟨v, found, under_eq_ok h⟩

/-- The default stands in for a field that is not there. -/
theorem optional_eq_ok (h : Fields.optional ms name default read = .ok a) :
    (Json.Members.find? ms name = none ∧ a = default) ∨
      ∃ v, Json.Members.find? ms name = some v ∧ read v = .ok a := by
  unfold Fields.optional at h
  split at h
  · rename_i missing
    exact .inl ⟨missing, (Except.ok.inj h).symm⟩
  · rename_i v found
    exact .inr ⟨v, found, under_eq_ok h⟩

end DocNumber.Fields
