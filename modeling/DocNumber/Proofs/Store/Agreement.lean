import DocNumber.Proofs.Store.Counter
import DocNumber.Proofs.Store.Search

/-!
Both stores, operation by operation. Over a catalogue whose numbers fit the table, an operation
that stores and looks for nothing larger has the same outcome in memory and in the table; only
their notes differ.
-/

namespace DocNumber.Store

/-- The same answer and the same state after it. -/
def Outcome.Same {α : Type} (a b : Outcome α) : Prop :=
  a.result = b.result ∧ a.state = b.state

/-- Rules numbered in order of creation, with numbers that the table can hold. -/
structure Kept (s : State) : Prop where
  catalogue : Catalogue s.rules
  held : ∀ r ∈ s.rules, Table.fits r.id = true

theorem Kept.empty (known : List String) : Kept (.fresh known) :=
  ⟨.empty, by simp⟩

theorem Kept.of_rules {s t : State} (h : Kept s) (same : t.rules = s.rules) : Kept t :=
  ⟨same ▸ h.catalogue, same ▸ h.held⟩

/-! ## Creating rules -/

/-- Every number of the row that a draft makes fits the table. -/
def storable (d : Draft) (s : State) : Bool :=
  match (Memory.create d s).1 with
  | .ok r => Table.fits r.id && Table.fits r.width && Table.fits r.priority
  | .error _ => true

/-- So it is for each of the drafts, up to the first that is refused. -/
def allStorable : List Draft → State → Bool
  | [], _ => true
  | d :: ds, s =>
    storable d s &&
      match (Memory.create d s).1 with
      | .ok _ => allStorable ds (Memory.create d s).2
      | .error _ => true

/-- The table counts on from its rows, memory from the number that it keeps. -/
theorem create_same {s : State} (h : Kept s) {d : Draft} (ok : storable d s = true)
    (lookup : Bool) :
    (Engine.create (.table lookup) d s).Same (Engine.create .memory d s) := by
  have tables : Table.create d s = Memory.create d s := by
    unfold Table.create Memory.create
    cases ha : d.accept with
    | error r => rfl
    | ok d' =>
      have id : Table.nextId s.rules = s.nextId := h.catalogue.nextId.trans s.nextId_eq.symm
      simp only [storable, Memory.create, ha, Rule.ofDraft, Bool.and_eq_true] at ok
      obtain ⟨⟨id_fits, -⟩, priority_fits⟩ := ok
      simp only [id, id_fits, priority_fits, Bool.not_true, Bool.false_eq_true, ↓reduceIte]
  obtain ⟨result, state⟩ := Engine.create_table lookup d s
  exact ⟨result.trans (congrArg Prod.fst tables), state.trans (congrArg Prod.snd tables)⟩

theorem create_kept {s : State} (h : Kept s) {d : Draft} (ok : storable d s = true) :
    Kept (Engine.create .memory d s).state := by
  rcases Engine.create_cases .memory d h.catalogue with ⟨_, -, same⟩ | ⟨d', ha, -, added, -⟩
  · rw [same]
    exact h
  · rw [added]
    refine ⟨h.catalogue.concat (Draft.usable_of_accept ha _) rfl, ?_⟩
    intro r hr
    rcases List.mem_append.mp hr with old | new
    · exact h.held r old
    · obtain rfl := List.mem_singleton.mp new
      simp only [storable, Memory.create, ha, Rule.ofDraft, Bool.and_eq_true] at ok
      exact s.nextId_eq ▸ ok.1.1

/-- Both stores stop at the same draft, with the same rules inserted. -/
theorem insertFrom_same {ds : List Draft} (lookup : Bool) :
    ∀ (count : Nat) {s : State}, Kept s → allStorable ds s = true →
      (Seed.insertFrom (.table lookup) count ds s).Same (Seed.insertFrom .memory count ds s) ∧
        Kept (Seed.insertFrom .memory count ds s).state := by
  induction ds with
  | nil =>
    intro count s h _
    exact ⟨⟨rfl, rfl⟩, h⟩
  | cons d ds ih =>
    intro count s h ok
    simp only [allStorable, Bool.and_eq_true] at ok
    obtain ⟨result, state⟩ := create_same h ok.1 lookup
    have kept := create_kept h ok.1
    unfold Seed.insertFrom
    dsimp only
    rw [result, state]
    cases hr : (Engine.create .memory d s).result with
    | error f => exact ⟨⟨rfl, rfl⟩, kept⟩
    | ok r =>
      have rest : allStorable ds (Engine.create .memory d s).state = true := by
        have made : (Memory.create d s).1 = .ok r := hr
        have := ok.2
        rw [made] at this
        exact this
      obtain ⟨⟨results, states⟩, kept'⟩ := ih (count + 1) kept rest
      exact ⟨⟨results, states⟩, kept'⟩

/-! ## Handing out values -/

/-- A conditional update of one row does what reading, adding and comparing does. -/
theorem next_same {s : State} (h : Kept s) {scope : Scope} {greatest : Int}
    (known : (s.rule? scope.rule).isSome = true) (pos : 1 ≤ greatest)
    (year : Table.fits scope.year = true) (month : Table.fits scope.month = true)
    (bound : Table.fits greatest = true) (lookup : Bool) :
    (Engine.next (.table lookup) scope greatest s).Same (Engine.next .memory scope greatest s) := by
  obtain ⟨r, hr⟩ := Option.isSome_iff_exists.mp known
  obtain ⟨stored, id⟩ := rule?_some hr
  have same := Table.next_eq_memory (id ▸ h.held r stored) year month bound (fun _ => pos) known
  obtain ⟨result, state⟩ := Engine.next_table lookup scope greatest s
  exact ⟨result.trans (congrArg Prod.fst same), state.trans (congrArg Prod.snd same)⟩

theorem next_rules (e : Engine) (scope : Scope) (greatest : Int) (s : State) :
    (e.next scope greatest s).state.rules = s.rules := by
  rcases e.next_cases scope greatest s with ⟨-, same⟩ | ⟨-, put, -⟩
  · rw [same]
  · rw [put]
    rfl

end DocNumber.Store
