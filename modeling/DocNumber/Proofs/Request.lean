import DocNumber.Proofs.Text.Blank
import DocNumber.Request

/-!
Requests that are accepted: neither code is blank and somebody asks. Their normal form has both
codes without blanks around them, and requests that differ in such blanks only have the same.
-/

namespace DocNumber.Request

structure Sound (q : Request) : Prop where
  documentType : Text.allBlank q.documentType = false
  department : Text.allBlank q.department = false
  issuedBy : 1 ≤ q.issuedBy

theorem refusal?_eq_none_iff {q : Request} : q.refusal? = none ↔ q.Sound := by
  unfold refusal?
  constructor
  · intro h
    split at h
    · cases h
    rename_i documentType
    split at h
    · cases h
    rename_i department
    split at h
    · cases h
    exact ⟨eq_false_of_ne_true documentType, eq_false_of_ne_true department, by omega⟩
  · intro ⟨documentType, department, issuedBy⟩
    simp [documentType, department, issuedBy]

theorem accept_ok_iff {q q' : Request} : q.accept = .ok q' ↔ q.Sound ∧ q.normalize = q' := by
  rw [← refusal?_eq_none_iff]
  unfold accept
  cases q.refusal? <;> simp

theorem field_of_accept {q : Request} {f : Refusal} (h : q.accept = .error f) :
    ∃ field, f = .request field := by
  unfold accept refusal? at h
  split at h
  · rename_i refused
    obtain rfl := Except.error.inj h
    split at refused
    · exact ⟨_, (Option.some.inj refused).symm⟩
    split at refused
    · exact ⟨_, (Option.some.inj refused).symm⟩
    split at refused
    · exact ⟨_, (Option.some.inj refused).symm⟩
    · cases refused
  · cases h

theorem trimmed_of_accept {q q' : Request} (h : q.accept = .ok q') :
    Text.Trimmed q'.documentType ∧ Text.Trimmed q'.department := by
  obtain ⟨sound, rfl⟩ := accept_ok_iff.mp h
  exact ⟨Text.trimmed_strip sound.documentType, Text.trimmed_strip sound.department⟩

/-- Two spellings of one request: the codes differ in the blanks around them only. -/
structure Respaced (q p : Request) : Prop where
  documentType : Text.Respaced q.documentType p.documentType
  department : Text.Respaced q.department p.department
  day : q.day = p.day
  issuedBy : q.issuedBy = p.issuedBy

variable {q p : Request}

theorem Respaced.normalize_eq (h : q.Respaced p) : q.normalize = p.normalize := by
  unfold normalize
  rw [Text.respaced_iff.mp h.documentType, Text.respaced_iff.mp h.department, h.day, h.issuedBy]

theorem Respaced.refusal?_eq (h : q.Respaced p) : q.refusal? = p.refusal? := by
  unfold refusal?
  rw [Text.allBlank_eq_of_strip (Text.respaced_iff.mp h.documentType),
    Text.allBlank_eq_of_strip (Text.respaced_iff.mp h.department), h.issuedBy]

theorem Respaced.accept_eq (h : q.Respaced p) : q.accept = p.accept := by
  rw [accept, accept, h.refusal?_eq, h.normalize_eq]

end DocNumber.Request
