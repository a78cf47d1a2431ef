import DocNumber.Proofs.Store.Counter

/-!
What one operation fails with, and numbers that a store cannot take. The table overflows when it is
handed one that no word holds: the priority of a sound draft, the id of a rule, the offset of a
search by no document type, or a part of a scope. Nothing else overflows, and an overflow changes
nothing.
-/

namespace DocNumber.Store

variable {e : Engine} {s : State} {d : Draft} {f : Filters} {limit offset id : Int}

/-! ## Failures of one operation -/

theorem Engine.create_failure {f : Failure} (h : (e.create d s).result = .error f) :
    (∃ r, f = .refused r) ∨ ∃ fault, f = .storage fault := by
  cases e with
  | memory =>
    cases hd : d.refusal? with
    | some r =>
      simp only [Engine.create, Memory.create, Draft.accept, hd, Except.error.injEq] at h
      exact .inl ⟨r, h.symm⟩
    | none => simp [Engine.create, Memory.create, Draft.accept, hd] at h
  | table lookup =>
    rw [(Engine.create_table lookup d s).1] at h
    simp only [Table.create] at h
    split at h
    · exact .inl ⟨_, (Except.error.inj h).symm⟩
    · split at h
      · exact .inr ⟨_, (Except.error.inj h).symm⟩
      · split at h
        · cases h
        · exact .inr ⟨_, (Except.error.inj h).symm⟩
  | down =>
    simp only [Engine.create] at h
    split at h
    · exact .inl ⟨_, (Except.error.inj h).symm⟩
    · exact .inr ⟨_, (Except.error.inj h).symm⟩

theorem Engine.get_failure {g : Failure} (h : e.get id s = .error g) :
    ∃ fault, g = .storage fault := by
  cases e with
  | memory => cases h
  | table lookup =>
    simp only [Engine.get, Table.get] at h
    split at h
    · cases h
    · exact ⟨_, (Except.error.inj h).symm⟩
  | down => exact ⟨_, (Except.error.inj h).symm⟩

theorem Engine.search_failure {g : Failure} (h : e.search f limit offset s = .error g) :
    ∃ fault, g = .storage fault := by
  cases e with
  | memory => cases h
  | table lookup =>
    simp only [Engine.search, Table.search] at h
    split at h
    · cases h
    · split at h
      · cases h
      · exact ⟨_, (Except.error.inj h).symm⟩
  | down => exact ⟨_, (Except.error.inj h).symm⟩

/-! ## Overflow -/

/-- Of what can be wrong with a draft, its priority is looked at last. -/
theorem Engine.create_overflow_iff :
    (e.create d s).result = .error (.storage .overflow) ↔
      d.refusal? = none ∧ ¬e.Takes d.priority := by
  cases e with
  | memory =>
    cases hd : d.refusal? <;> simp [Engine.create, Memory.create, Draft.accept, hd]
  | table lookup =>
    have priority : d.normalize.priority = d.priority := rfl
    rw [(Engine.create_table lookup d s).1, takes_table]
    cases hd : d.refusal? with
    | some r => simp [Table.create, Draft.accept, hd]
    | none =>
      simp only [Table.create, Draft.accept, hd, priority]
      cases Table.fits d.priority <;> cases Table.fits (Table.nextId s.rules) <;> simp
  | down => cases hd : d.refusal? <;> simp [Engine.create, Engine.unavailable, hd]

theorem Engine.get_overflow_iff : e.get id s = .error (.storage .overflow) ↔ ¬e.Takes id := by
  cases e with
  | memory => simp [Engine.get]
  | table lookup =>
    rw [takes_table]
    simp only [Engine.get, Table.get]
    cases Table.fits id <;> simp
  | down => simp [Engine.get, Engine.unavailable]

/-- With a document type the page is cut from the rows in hand, wherever it begins. -/
theorem Engine.search_overflow_iff (takes : e.Takes limit) :
    e.search f limit offset s = .error (.storage .overflow) ↔
      f.documentType = none ∧ ¬e.Takes offset := by
  cases e with
  | memory => simp [Engine.search]
  | table lookup =>
    rw [takes_table] at takes ⊢
    simp only [Engine.search, Table.search]
    cases f.documentType <;> cases Table.fits offset <;> simp [takes]
  | down => simp [Engine.search, Engine.unavailable]

theorem Engine.find_no_overflow {documentType department : String} {day : Calendar.Day} :
    e.find documentType department day s ≠ .error (.storage .overflow) := by
  cases e <;> simp [Engine.find, Engine.unavailable]

theorem Engine.next_overflow_iff {scope : Scope} {greatest : Int} :
    (e.next scope greatest s).result = .error (.storage .overflow) ↔
      ¬(e.Takes scope.rule ∧ e.Takes scope.year ∧ e.Takes scope.month ∧ e.Takes greatest) := by
  cases e with
  | memory =>
    change (Memory.next scope greatest s).1 = _ ↔ _
    rw [Memory.next_eq]
    split <;> simp
  | table lookup =>
    have takes : ((Engine.table lookup).Takes scope.rule ∧ (Engine.table lookup).Takes scope.year ∧
        (Engine.table lookup).Takes scope.month ∧ (Engine.table lookup).Takes greatest) ↔
        (Table.fits scope.rule && Table.fits scope.year && Table.fits scope.month &&
          Table.fits greatest) = true := by
      simp [takes_table, and_assoc]
    rw [(Engine.next_table lookup scope greatest s).1, takes]
    unfold Table.next
    cases Table.fits scope.rule && Table.fits scope.year && Table.fits scope.month &&
      Table.fits greatest with
    | false => simp
    | true =>
      simp only [Bool.not_true, Bool.false_eq_true, ↓reduceIte, not_true_eq_false, iff_false]
      split
      · split <;> simp
      · split <;> simp
  | down => simp [Engine.next, Engine.unavailable]

end DocNumber.Store
