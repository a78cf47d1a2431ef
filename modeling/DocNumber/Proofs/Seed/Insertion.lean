import DocNumber.Proofs.Issuing.Reachable
import DocNumber.Proofs.Store.Agreement
import DocNumber.Seed.Rows

/-!
Inserting seeds, and counting them. Inserting gets to the end exactly when nothing is wrong with any
draft and all numbers fit the store (`Insertable`). A dry run counts the drafts and looks at none of
this, so its count is that of the real run for such drafts and for no others.
-/

namespace DocNumber.Store

variable {e : Engine} {s : State} {d : Draft}

theorem Engine.create_ok_iff (up : e ≠ .down) (h : Catalogue s.rules) :
    (∃ r, (e.create d s).result = .ok r) ↔
      d.refusal? = none ∧ e.Takes d.priority ∧ e.Takes (s.rules.length + 1) := by
  cases e with
  | memory =>
    cases hd : d.refusal? with
    | some r => simp [Engine.create, Memory.create, Draft.accept, hd]
    | none => simp [Engine.create, Memory.create, Draft.accept, hd]
  | table lookup =>
    rw [(Engine.create_table lookup d s).1, takes_table, takes_table]
    cases hd : d.refusal? with
    | some r => simp [Table.create, Draft.accept, hd]
    | none =>
      have priority : d.normalize.priority = d.priority := rfl
      simp only [Table.create, Draft.accept, hd, h.nextId, priority, true_and]
      cases Table.fits d.priority <;> cases Table.fits (s.rules.length + 1) <;> simp
  | down => exact absurd rfl up

theorem Engine.create_state (h : Catalogue s.rules) {r : Rule}
    (made : (e.create d s).result = .ok r) :
    (e.create d s).state = s.addRule (Rule.ofDraft (s.rules.length + 1) d.normalize) := by
  rcases e.create_cases d h with ⟨f, failed, -⟩ | ⟨d', accepted, -, added, -⟩
  · rw [failed] at made
    cases made
  · obtain ⟨-, rfl⟩ := Draft.accept_ok_iff.mp accepted
    exact added

theorem Engine.create_length (h : Catalogue s.rules) {r : Rule}
    (made : (e.create d s).result = .ok r) :
    (e.create d s).state.rules.length = s.rules.length + 1 := by
  rw [create_state h made]
  exact List.length_append

/-- The normal forms of drafts as rules, numbered from the one after `n` on. -/
def rulesAfter (n : Nat) : List Draft → List Rule
  | [] => []
  | d :: ds => Rule.ofDraft (n + 1) d.normalize :: rulesAfter (n + 1) ds

theorem length_rulesAfter (ds : List Draft) : ∀ n : Nat, (rulesAfter n ds).length = ds.length := by
  induction ds with
  | nil =>
    intro n
    rfl
  | cons d ds ih =>
    intro n
    rw [rulesAfter, List.length_cons, ih, List.length_cons]

def State.addRules (s : State) (rs : List Rule) : State :=
  { s with
    rules := s.rules ++ rs
    nextId := s.nextId + rs.length
    nextId_eq := by
      rw [s.nextId_eq, List.length_append]
      omega }

/-- Drafts that a store of `n` rules takes one after the other. -/
structure Insertable (e : Engine) (n : Nat) (ds : List Draft) : Prop where
  sound : ∀ d ∈ ds, d.refusal? = none
  priorities : ∀ d ∈ ds, e.Takes d.priority
  numbers : ∀ i < ds.length, e.Takes (n + i + 1)

theorem Insertable.nil (e : Engine) (n : Nat) : Insertable e n [] :=
  ⟨by simp, by simp, by simp⟩

theorem insertable_cons {n : Nat} {ds : List Draft} :
    Insertable e n (d :: ds) ↔
      (d.refusal? = none ∧ e.Takes d.priority ∧ e.Takes (n + 1)) ∧ Insertable e (n + 1) ds := by
  have shift (i : Nat) : (n : Int) + (i + 1 : Nat) + 1 = (n + 1 : Nat) + i + 1 := by omega
  constructor
  · rintro ⟨sound, priorities, numbers⟩
    have first := numbers 0 (Nat.succ_pos _)
    refine ⟨⟨sound d List.mem_cons_self, priorities d List.mem_cons_self, by simpa using first⟩,
      fun c hc => sound c (List.mem_cons_of_mem _ hc),
      fun c hc => priorities c (List.mem_cons_of_mem _ hc), ?_⟩
    intro i hi
    rw [← shift]
    exact numbers (i + 1) (Nat.succ_lt_succ hi)
  · rintro ⟨⟨sound, priority, number⟩, rest⟩
    refine ⟨?_, ?_, ?_⟩
    · intro c hc
      rcases List.mem_cons.mp hc with rfl | later
      · exact sound
      · exact rest.sound c later
    · intro c hc
      rcases List.mem_cons.mp hc with rfl | later
      · exact priority
      · exact rest.priorities c later
    · intro i hi
      cases i with
      | zero => simpa using number
      | succ i =>
        rw [shift]
        exact rest.numbers i (Nat.lt_of_succ_lt_succ hi)

/-- Inserting gets to the end exactly with drafts that the store takes. -/
theorem insertFrom_ok_iff (up : e ≠ .down) (ds : List Draft) :
    ∀ (k : Nat) (s : State), Catalogue s.rules → ∀ n,
      (Seed.insertFrom e k ds s).result = .ok n ↔
        Insertable e s.rules.length ds ∧ n = k + ds.length := by
  induction ds with
  | nil =>
    intro k s h n
    simp [Seed.insertFrom, Insertable.nil, eq_comm]
  | cons d ds ih =>
    intro k s h n
    rw [insertable_cons, ← Engine.create_ok_iff up h]
    unfold Seed.insertFrom
    dsimp only
    cases hr : (e.create d s).result with
    | error f => simp
    | ok r =>
      dsimp only
      rw [ih (k + 1) _ (h.create e d), Engine.create_length h hr, List.length_cons]
      simp only [Except.ok.injEq, exists_eq', true_and]
      rw [show k + 1 + ds.length = k + (ds.length + 1) by omega]

/-- Drafts that the store takes are behind as soon as their rules are there: the rest goes on from
the store with these rules. -/
theorem insertFrom_append (up : e ≠ .down) (ds rest : List Draft) :
    ∀ (k : Nat) (s : State), Catalogue s.rules → Insertable e s.rules.length ds →
      (Seed.insertFrom e k (ds ++ rest) s).Same
        (Seed.insertFrom e (k + ds.length) rest (s.addRules (rulesAfter s.rules.length ds))) := by
  induction ds with
  | nil =>
    intro k s _ _
    have none : s.addRules (rulesAfter s.rules.length []) = s := by
      simp [State.addRules, rulesAfter]
    rw [none]
    exact ⟨rfl, rfl⟩
  | cons d ds ih =>
    intro k s h taken
    obtain ⟨first, later⟩ := insertable_cons.mp taken
    obtain ⟨r, hr⟩ := (Engine.create_ok_iff up h).mpr first
    have grown := Engine.create_length h hr
    have added : (e.create d s).state.addRules (rulesAfter (s.rules.length + 1) ds) =
        s.addRules (rulesAfter s.rules.length (d :: ds)) := by
      rw [Engine.create_state h hr]
      exact State.ext (by simp [State.addRules, State.addRule, rulesAfter]) rfl rfl
    have same := ih (k + 1) _ (h.create e d) (grown ▸ later)
    rw [grown, added, show k + 1 + ds.length = k + (d :: ds).length by simp; omega] at same
    rw [List.cons_append, Seed.insertFrom]
    simp only [hr]
    exact same

/-- What drafts are inserted as, where the store takes them. -/
theorem insertFrom_state (up : e ≠ .down) (ds : List Draft) (k : Nat) (s : State)
    (h : Catalogue s.rules) (taken : Insertable e s.rules.length ds) :
    (Seed.insertFrom e k ds s).state = s.addRules (rulesAfter s.rules.length ds) := by
  have same := (insertFrom_append up ds [] k s h taken).2
  rw [List.append_nil] at same
  exact same

end DocNumber.Store

namespace DocNumber.Seed

open Store Issuing

/-- A dry run counts every draft and changes nothing. The real run comes to the same count exactly
where the store takes all drafts, and then there is one more rule for each; anywhere else it
fails. -/
theorem insert_eq_dryRun_iff {e : Engine} {w : Course} (reached : Reachable e w) (up : e ≠ .down)
    (ds : List Draft) :
    let s := w.pool.state
    (dryRun ds s).result = .ok ds.length ∧ (dryRun ds s).state = s ∧
      ((insert e ds s).result = (dryRun ds s).result ↔ Insertable e s.rules.length ds) ∧
      (Insertable e s.rules.length ds →
        (insert e ds s).state = s.addRules (rulesAfter s.rules.length ds)) ∧
      (¬Insertable e s.rules.length ds → ∃ f, (insert e ds s).result = .error f) := by
  intro s
  have catalogue : Catalogue s.rules := reached.sound.valid.catalogue
  have ends (n : Nat) := insertFrom_ok_iff up ds 0 s catalogue n
  refine ⟨rfl, rfl, ?_, insertFrom_state up ds 0 s catalogue, ?_⟩
  · change (insertFrom e 0 ds s).result = .ok ds.length ↔ _
    rw [ends, Nat.zero_add]
    simp
  · intro taken
    change ∃ f, (insertFrom e 0 ds s).result = .error f
    cases hr : (insertFrom e 0 ds s).result with
    | error f => exact ⟨f, rfl⟩
    | ok n => exact absurd ((ends n).mp hr).1 taken

theorem insert_eq_dryRun_iff_invoices :
    let s := (twice invoices order nextOrder).pool.state
    let ds := [{ invoices with digits := 4 }, { invoices with department := some " T " }]
    (insert .memory ds s).result = (dryRun ds s).result ∧
      (insert .memory ds s).state = s.addRules (rulesAfter 1 ds) := by
  intro s ds
  have taken : Insertable .memory s.rules.length ds := by
    exact ⟨by decide +kernel, fun d _ => Engine.takes_memory _, fun i _ => Engine.takes_memory _⟩
  have one : s.rules.length = 1 := by decide +kernel
  obtain ⟨-, -, same, state, -⟩ :=
    insert_eq_dryRun_iff (twice_reached invoices order nextOrder) (by decide) ds
  exact ⟨same.mpr taken, one ▸ state taken⟩

/-- A row that leaves its digits out: they count as none. -/
def undigited : Json :=
  .object
    [("data", .list
      [.object
        [("rule_name", .text "Invoices"), ("template", .text "\x7bseq\x7d"),
          ("document_type_codes", .list [.text "INV"]),
          ("effective_from", .text "2025-01-01")]])]

/-- The dry run counts a rule that the real run refuses. -/
theorem dryRun_counts_refused :
    ∃ ds, readPayload Depths.usual.codes undigited = .ok ds ∧ (dryRun ds .empty).result = .ok 1 ∧
      (insert .memory ds .empty).result = .error (.refused .digitsOutOfRange) := by
  refine ⟨[{ invoices with template := "\x7bseq\x7d", digits := 0, priority := 0 }], ?_, rfl, ?_⟩
  · rfl
  · decide +kernel

end DocNumber.Seed
