import DocNumber.Proofs.Store.Catalogue

/-!
Handing out the next value of a scope. Whatever the store, an answer is the successor of the last
value and is recorded, and a refusal changes nothing. Where the rule exists and all numbers fit,
the table answers as memory does.
-/

namespace DocNumber.Store

theorem last_put (cs : Counters) (scope other : Scope) (n : Int) :
    Counters.last (Counters.put scope n cs) other =
      if scope = other then n else Counters.last cs other := by
  unfold Counters.last
  rw [Counters.last?_put]
  split <;> rfl

theorem mem_put {cs : Counters} {scope : Scope} {n : Int} {x : Scope × Int}
    (h : x ∈ Counters.put scope n cs) : x = (scope, n) ∨ x ∈ cs := by
  induction cs with
  | nil => exact .inl (List.mem_singleton.mp h)
  | cons c cs ih =>
    obtain ⟨other, old⟩ := c
    unfold Counters.put at h
    split at h
    · rename_i same
      rcases List.mem_cons.mp h with rfl | rest
      · exact .inl (by rw [same])
      · exact .inr (List.mem_cons_of_mem _ rest)
    · rcases List.mem_cons.mp h with rfl | rest
      · exact .inr List.mem_cons_self
      · exact (ih rest).imp_right (List.mem_cons_of_mem _)

theorem last_of_last? {cs : Counters} {scope : Scope} {n : Int} (h : cs.last? scope = some n) :
    cs.last scope = n := by
  simp [Counters.last, h]

theorem last_of_none {cs : Counters} {scope : Scope} (h : cs.last? scope = none) :
    cs.last scope = 0 := by
  simp [Counters.last, h]

/-- A value was handed out: the successor of the last one, and it is recorded. -/
structure Granted (scope : Scope) (greatest : Int) (s : State) (result : Except Failure Int)
    (t : State) : Prop where
  result : result = .ok (s.counters.last scope + 1)
  state : t = s.putCounter scope (s.counters.last scope + 1)
  le : 1 ≤ greatest → s.counters.last scope + 1 ≤ greatest

structure Denied (s : State) (result : Except Failure Int) (t : State) : Prop where
  result : ∃ f, result = .error f
  state : t = s

theorem Memory.next_eq (scope : Scope) (greatest : Int) (s : State) :
    Memory.next scope greatest s =
      if greatest < s.counters.last scope + 1 then
        (.error (.refused (.exhausted scope greatest)), s)
      else (.ok (s.counters.last scope + 1), s.putCounter scope (s.counters.last scope + 1)) :=
  rfl

/-- The year and the month of a day fit a word. -/
theorem fits_day (day : Calendar.Day) :
    Table.fits day.year = true ∧ Table.fits day.month = true := by
  have bound : 9999 < Decimal.wordBound := by decide
  obtain ⟨_, _, _, _, -, -⟩ := day.valid
  simp only [Table.fits, Bool.and_eq_true, decide_eq_true_eq]
  omega

/-- Where the rule exists and all numbers fit, the table only differs in a first value, which it
hands out without a look at the greatest. -/
theorem Table.next_eq_memory {scope : Scope} {greatest : Int} {s : State}
    (hr : fits scope.rule = true) (hy : fits scope.year = true) (hm : fits scope.month = true)
    (hg : fits greatest = true) (pos : s.counters.last? scope = none → 1 ≤ greatest)
    (known : (s.rule? scope.rule).isSome = true) :
    Table.next scope greatest s = Memory.next scope greatest s := by
  rw [Memory.next_eq]
  simp only [Table.next, hr, hy, hm, hg, Bool.and_self, Bool.not_true, Bool.false_eq_true,
    ↓reduceIte]
  cases hl : s.counters.last? scope with
  | none =>
    have := pos hl
    rw [last_of_none hl]
    simp [known, show ¬greatest < 1 by omega]
  | some n =>
    rw [last_of_last? hl]
    by_cases below : n < greatest
    · simp [below, show ¬greatest < n + 1 by omega]
    · simp [below, show greatest < n + 1 by omega]

theorem Memory.next_cases (scope : Scope) (greatest : Int) (s : State) :
    Denied s (Memory.next scope greatest s).1 (Memory.next scope greatest s).2 ∨
      Granted scope greatest s (Memory.next scope greatest s).1
        (Memory.next scope greatest s).2 := by
  rw [Memory.next_eq]
  split
  · exact .inl ⟨⟨_, rfl⟩, rfl⟩
  · exact .inr ⟨rfl, rfl, fun _ => by omega⟩

theorem Table.next_cases (scope : Scope) (greatest : Int) (s : State) :
    Denied s (Table.next scope greatest s).1 (Table.next scope greatest s).2 ∨
      Granted scope greatest s (Table.next scope greatest s).1
        (Table.next scope greatest s).2 := by
  unfold Table.next
  split
  · exact .inl ⟨⟨_, rfl⟩, rfl⟩
  · cases hl : s.counters.last? scope with
    | none =>
      dsimp only
      split
      · exact .inr ⟨by simp [last_of_none hl], by simp [last_of_none hl], by simp [last_of_none hl]⟩
      · exact .inl ⟨⟨_, rfl⟩, rfl⟩
    | some n =>
      dsimp only
      split
      · exact .inr ⟨by simp [last_of_last? hl], by simp [last_of_last? hl],
          fun _ => by rw [last_of_last? hl]; omega⟩
      · exact .inl ⟨⟨_, rfl⟩, rfl⟩

/-- The table answers as its operation does; only its notes depend on the answer. -/
theorem Engine.next_table (lookup : Bool) (scope : Scope) (greatest : Int) (s : State) :
    (Engine.next (.table lookup) scope greatest s).result = (Table.next scope greatest s).1 ∧
      (Engine.next (.table lookup) scope greatest s).state = (Table.next scope greatest s).2 := by
  simp only [Engine.next]
  split <;> exact ⟨rfl, rfl⟩

theorem Engine.next_cases (e : Engine) (scope : Scope) (greatest : Int) (s : State) :
    Denied s (e.next scope greatest s).result (e.next scope greatest s).state ∨
      Granted scope greatest s (e.next scope greatest s).result
        (e.next scope greatest s).state := by
  cases e with
  | memory => exact Memory.next_cases scope greatest s
  | table lookup =>
    obtain ⟨result, state⟩ := Engine.next_table lookup scope greatest s
    rw [result, state]
    exact Table.next_cases scope greatest s
  | down => exact .inl ⟨⟨_, rfl⟩, rfl⟩

/-- Values are refused because there are none left, or by storage. -/
theorem Engine.next_failure {e : Engine} {scope : Scope} {greatest : Int} {s : State} {f : Failure}
    (h : (e.next scope greatest s).result = .error f) :
    f = .refused (.exhausted scope greatest) ∨ ∃ fault, f = .storage fault := by
  cases e with
  | memory =>
    change (Memory.next scope greatest s).1 = .error f at h
    rw [Memory.next_eq] at h
    split at h
    · exact .inl (Except.error.inj h).symm
    · cases h
  | table lookup =>
    rw [(Engine.next_table lookup scope greatest s).1] at h
    unfold Table.next at h
    split at h
    · exact .inr ⟨_, (Except.error.inj h).symm⟩
    · split at h
      · split at h
        · cases h
        · exact .inl (Except.error.inj h).symm
      · split at h
        · cases h
        · exact .inr ⟨_, (Except.error.inj h).symm⟩
  | down => exact .inr ⟨_, (Except.error.inj h).symm⟩

end DocNumber.Store

namespace DocNumber.Issuing

open Store

theorem Service.next_cases (v : Service) (scope : Scope) (greatest : Int) (s : State) :
    Denied s (v.next scope greatest s).result (v.next scope greatest s).state ∨
      Granted scope greatest s (v.next scope greatest s).result
        (v.next scope greatest s).state := by
  unfold Service.next
  split
  · exact .inl ⟨⟨_, rfl⟩, rfl⟩
  · exact v.engine.next_cases scope greatest s

theorem Service.next_failure {v : Service} {scope : Scope} {greatest : Int} {s : State}
    {f : Failure} (h : (v.next scope greatest s).result = .error f) :
    f = .refused (.exhausted scope greatest) ∨ ∃ fault, f = .storage fault := by
  unfold Service.next at h
  split at h
  · exact .inr ⟨_, (Except.error.inj h).symm⟩
  · exact v.engine.next_failure h

end DocNumber.Issuing
