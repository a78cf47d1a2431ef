import DocNumber.Proofs.Rule.Usable
import DocNumber.Seed.Insert

/-!
The rules of a store. Creating one appends it under the next number, in either store, so rules
are numbered from one in order of creation and each number belongs to one rule.
-/

namespace DocNumber.Store

structure Catalogue (rules : List Rule) : Prop where
  usable : ∀ r ∈ rules, r.Usable
  numbered : ∀ (i : Nat) (r : Rule), rules[i]? = some r → r.id = i + 1

theorem Catalogue.empty : Catalogue [] :=
  ⟨by simp, by simp⟩

theorem Catalogue.concat {rules : List Rule} (h : Catalogue rules) {r : Rule} (hr : r.Usable)
    (hid : r.id = rules.length + 1) : Catalogue (rules ++ [r]) := by
  constructor
  · intro a ha
    rcases List.mem_append.mp ha with old | new
    · exact h.usable a old
    · obtain rfl : a = r := by simpa using new
      exact hr
  · intro i a ha
    by_cases hi : i < rules.length
    · rw [List.getElem?_append_left hi] at ha
      exact h.numbered i a ha
    · rw [List.getElem?_append_right (by omega), List.getElem?_singleton] at ha
      split at ha
      · obtain rfl : r = a := by simpa using ha
        omega
      · cases ha

theorem Catalogue.eq_of_id {rules : List Rule} (h : Catalogue rules) {a b : Rule}
    (ha : a ∈ rules) (hb : b ∈ rules) (same : a.id = b.id) : a = b := by
  obtain ⟨i, hi⟩ := List.getElem?_of_mem ha
  obtain ⟨j, hj⟩ := List.getElem?_of_mem hb
  have := h.numbered i a hi
  have := h.numbered j b hj
  obtain rfl : i = j := by omega
  simpa [hi] using hj

theorem Catalogue.rule?_eq {s : State} (h : Catalogue s.rules) {r : Rule} (hr : r ∈ s.rules) :
    s.rule? r.id = some r := by
  unfold State.rule?
  cases hf : s.rules.find? fun a => a.id == r.id with
  | none =>
    have := List.find?_eq_none.mp hf r hr
    simp at this
  | some a =>
    have same := List.find?_some hf
    rw [h.eq_of_id (List.mem_of_find?_eq_some hf) hr (by simpa using same)]

theorem rule?_some {s : State} {id : Int} {r : Rule} (h : s.rule? id = some r) :
    r ∈ s.rules ∧ r.id = id := by
  unfold State.rule? at h
  exact ⟨List.mem_of_find?_eq_some h, by simpa using List.find?_some h⟩

theorem Catalogue.nextId {rules : List Rule} (h : Catalogue rules) :
    Table.nextId rules = rules.length + 1 := by
  have greatest : ∀ (rs : List Rule) (k : Nat),
      (∀ (i : Nat) (r : Rule), rs[i]? = some r → r.id = (k + i : Nat) + 1) →
      rs.foldl (fun n r => max n r.id) (k : Int) = (k + rs.length : Nat) := by
    intro rs
    induction rs with
    | nil => simp
    | cons r rs ih =>
      intro k hk
      have hr := hk 0 r rfl
      have tail := ih (k + 1) fun i a ha => by
        have := hk (i + 1) a ha
        omega
      rw [List.foldl_cons, show max (k : Int) r.id = (k + 1 : Nat) by omega, tail,
        List.length_cons]
      omega
  have := greatest rules 0 fun i r hr => by simpa using h.numbered i r hr
  simp only [Int.ofNat_zero, Nat.zero_add] at this
  rw [Table.nextId, this]

/-- A number that the store can keep and look for: memory takes any. -/
def Engine.Takes (e : Engine) (n : Int) : Prop :=
  ∀ lookup, e = .table lookup → Table.fits n = true

@[simp] theorem Engine.takes_memory (n : Int) : Engine.memory.Takes n :=
  fun _ table => by cases table

@[simp] theorem Engine.takes_down (n : Int) : Engine.down.Takes n :=
  fun _ table => by cases table

theorem Engine.takes_table {lookup : Bool} {n : Int} :
    (Engine.table lookup).Takes n ↔ Table.fits n = true :=
  ⟨fun h => h lookup rfl, fun h _ _ => h⟩

theorem Engine.takes_of_bounds {e : Engine} {n : Int} (low : -(Decimal.wordBound : Int) ≤ n)
    (high : n < Decimal.wordBound) : e.Takes n := by
  intro _ _
  simp only [Table.fits, Bool.and_eq_true, decide_eq_true_eq]
  exact ⟨low, high⟩

theorem Engine.Takes.of_le {e : Engine} {m n : Int} (h : e.Takes n) (low : 0 ≤ m) (le : m ≤ n) :
    e.Takes m := by
  intro lookup table
  have fits := h lookup table
  simp only [Table.fits, Bool.and_eq_true, decide_eq_true_eq] at fits ⊢
  omega

theorem Engine.create_table (lookup : Bool) (d : Draft) (s : State) :
    (Engine.create (.table lookup) d s).result = (Table.create d s).1 ∧
      (Engine.create (.table lookup) d s).state = (Table.create d s).2 := by
  simp only [Engine.create]
  split <;> exact ⟨rfl, rfl⟩

theorem Engine.up_of_created {e : Engine} {d : Draft} {s : State} {r : Rule}
    (h : (e.create d s).result = .ok r) : e ≠ .down := by
  rintro rfl
  cases hd : d.refusal? <;> simp [Engine.create, hd] at h

/-- Whatever the store holds, a rule that was created comes from an accepted draft. -/
theorem Engine.created {e : Engine} {d : Draft} {s : State} {r : Rule}
    (h : (e.create d s).result = .ok r) :
    ∃ d' id, d.accept = .ok d' ∧ r = Rule.ofDraft id d' := by
  have up := Engine.up_of_created h
  cases e with
  | memory =>
    change (Memory.create d s).1 = .ok r at h
    unfold Memory.create at h
    split at h
    · cases h
    · exact ⟨_, _, ‹_›, (Except.ok.inj h).symm⟩
  | table lookup =>
    rw [(Engine.create_table lookup d s).1] at h
    unfold Table.create at h
    split at h
    · cases h
    · split at h
      · cases h
      · split at h
        · exact ⟨_, _, ‹_›, (Except.ok.inj h).symm⟩
        · cases h
  | down => exact absurd rfl up

/-- No store looks at itself before the draft is accepted. -/
theorem Engine.create_refused (e : Engine) {d : Draft} {r : Refusal} (h : d.accept = .error r)
    (s : State) : e.create d s = ⟨.error (.refused r), s, []⟩ := by
  cases e with
  | memory => simp only [Engine.create, Memory.create, h]
  | table lookup => simp only [Engine.create, Table.create, h]
  | down => simp only [Engine.create, Draft.accept_error_iff.mp h]

/-- Either nothing happens, or the accepted draft becomes the last rule. -/
theorem Engine.create_cases (e : Engine) (d : Draft) {s : State} (h : Catalogue s.rules) :
    (∃ f, (e.create d s).result = .error f ∧ (e.create d s).state = s) ∨
      ∃ d', d.accept = .ok d' ∧
        (e.create d s).result = .ok (Rule.ofDraft (s.rules.length + 1) d') ∧
        (e.create d s).state = s.addRule (Rule.ofDraft (s.rules.length + 1) d') ∧
        ∀ lookup, e = .table lookup → Table.fits (s.rules.length + 1) = true := by
  cases e with
  | memory =>
    cases ha : d.accept with
    | error r => exact .inl ⟨.refused r, by simp [Engine.create, Memory.create, ha]⟩
    | ok d' => exact .inr ⟨d', rfl, by simp [Engine.create, Memory.create, ha, s.nextId_eq]⟩
  | table lookup =>
    cases ha : d.accept with
    | error r => exact .inl ⟨.refused r, by simp [Engine.create, Table.create, ha]⟩
    | ok d' =>
      by_cases hp : Table.fits d'.priority = true
      · by_cases hid : Table.fits (s.rules.length + 1) = true
        · exact .inr ⟨d', rfl, by simp [Engine.create, Table.create, ha, hp, h.nextId, hid]⟩
        · exact .inl ⟨.storage .unavailable,
            by simp [Engine.create, Table.create, ha, hp, h.nextId, hid]⟩
      · exact .inl ⟨.storage .overflow, by simp [Engine.create, Table.create, ha, hp]⟩
  | down =>
    cases hd : d.refusal? with
    | none => exact .inl ⟨Engine.unavailable, by simp [Engine.create, hd]⟩
    | some r => exact .inl ⟨.refused r, by simp [Engine.create, hd]⟩

/-- A sound draft fails where there is no number left for its rule. -/
theorem Engine.create_full {e : Engine} {d : Draft} {s : State} (h : Catalogue s.rules)
    (sound : d.refusal? = none)
    (priority : e.Takes d.priority) (full : ¬e.Takes (s.rules.length + 1)) :
    (e.create d s).result = .error (.storage .unavailable) ∧ (e.create d s).state = s := by
  cases e with
  | memory => exact absurd (Engine.takes_memory _) full
  | down => exact absurd (Engine.takes_down _) full
  | table lookup =>
    rw [Engine.takes_table] at priority full
    have accepted : d.accept = .ok d.normalize := Draft.accept_ok_iff.mpr ⟨sound, rfl⟩
    have kept : d.normalize.priority = d.priority := rfl
    obtain ⟨result, state⟩ := Engine.create_table lookup d s
    rw [result, state]
    simp [Table.create, accepted, kept, priority, h.nextId, full]

theorem Catalogue.create {s : State} (h : Catalogue s.rules) (e : Engine) (d : Draft) :
    Catalogue (e.create d s).state.rules := by
  rcases e.create_cases d h with ⟨_, -, same⟩ | ⟨d', accepted, -, added, -⟩
  · rw [same]
    exact h
  · rw [added]
    exact h.concat (Draft.usable_of_accept accepted _) rfl

/-- A rule that was created is stored. -/
theorem Engine.created_mem {e : Engine} {d : Draft} {s : State} {r : Rule}
    (catalogue : Catalogue s.rules) (h : (e.create d s).result = .ok r) :
    r ∈ (e.create d s).state.rules := by
  rcases e.create_cases d catalogue with ⟨f, failed, -⟩ | ⟨d', -, result, added, -⟩
  · rw [failed] at h
    cases h
  · obtain rfl := Except.ok.inj (result.symm.trans h)
    rw [added]
    exact List.mem_append_right _ (List.mem_singleton.mpr rfl)

/-- What every creation keeps, inserting drafts in a row keeps. -/
theorem insertFrom_induction {e : Engine} {P : State → Prop}
    (create : ∀ d s, P s → P (e.create d s).state) (ds : List Draft) :
    ∀ (count : Nat) (s : State), P s → P (Seed.insertFrom e count ds s).state := by
  induction ds with
  | nil =>
    intro count s h
    exact h
  | cons d ds ih =>
    intro count s h
    unfold Seed.insertFrom
    dsimp only
    split
    · exact create d s h
    · exact ih (count + 1) _ (create d s h)

end DocNumber.Store
