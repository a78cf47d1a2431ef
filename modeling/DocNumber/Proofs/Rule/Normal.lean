import DocNumber.Proofs.Rule.Usable

/-!
Rules in normal form: texts without blanks around them, each document type once, a window that
does not end before it starts. Every draft that is accepted makes such a rule.
-/

namespace DocNumber

structure Rule.Normal (r : Rule) : Prop extends r.Usable where
  name : Text.Trimmed r.name
  written : Text.allBlank r.template = false
  department : ∀ code, r.department = some code → Text.Trimmed code
  listed : r.types ≠ []
  types : ∀ code ∈ r.types, Text.Trimmed code
  distinct : r.types.Nodup
  period : ∀ last, r.window.last = some last → r.window.first ≤ last

namespace Draft

theorem normal_of_accept {d d' : Draft} (h : d.accept = .ok d') (id : Int) :
    (Rule.ofDraft id d').Normal := by
  obtain ⟨sound, rfl⟩ := sound_of_accept h
  refine ⟨usable_of_accept h id, Text.trimmed_strip (sound .name), sound .template, ?_,
    normalCodes_ne_nil_iff.mpr (sound .types), fun _ => trimmed_of_mem_normalCodes,
    nodup_normalCodes d.types, sound .period⟩
  intro c hc
  obtain ⟨code, -, written, rfl⟩ := normalDepartment_eq_some.mp hc
  exact Text.trimmed_strip written

end Draft

end DocNumber
