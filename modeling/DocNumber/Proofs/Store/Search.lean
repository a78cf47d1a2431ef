import DocNumber.Proofs.Calendar.Order
import DocNumber.Proofs.Rule.Choice
import DocNumber.Proofs.Store.Catalogue
import DocNumber.Store.Engine

/-!
Looking rules up. Memory sorts all rules and filters them, the table filters and sorts what is
left; numbers of rules are unique, so the order is strict and both get the same rows, the first in
precedence before all others. A page with a limit and an offset in range is the same whichever way
it is cut, and one with room for all rows holds them all.
-/

namespace DocNumber.Store

theorem ordered_pairwise (rules : List Rule) :
    (ordered rules).Pairwise fun a b => a.precedes b = true :=
  List.pairwise_mergeSort (fun a b c => Rule.precedes_trans (a := a) (b := b) (c := c))
    Rule.precedes_total rules

theorem ordered_perm (rules : List Rule) : (ordered rules).Perm rules :=
  List.mergeSort_perm rules _

/-- Sorting and then filtering gives what filtering and then sorting gives. -/
theorem ordered_filter {rules : List Rule} (h : Catalogue rules) (keep : Rule → Bool) :
    (ordered rules).filter keep = ordered (rules.filter keep) := by
  have left : ((ordered rules).filter keep).Perm (rules.filter keep) :=
    (ordered_perm rules).filter keep
  have both : ((ordered rules).filter keep).Perm (ordered (rules.filter keep)) :=
    left.trans (ordered_perm _).symm
  apply List.Perm.eq_of_pairwise ?_ ((ordered_pairwise rules).filter keep)
    (ordered_pairwise (rules.filter keep)) both
  intro a b ha hb hab hba
  -- Rules that precede each other have one number, and so are one rule.
  have stored {r : Rule} (hr : r ∈ rules.filter keep) : r ∈ rules := (List.mem_filter.mp hr).1
  have ha' : a ∈ rules := stored (left.mem_iff.mp ha)
  have hb' : b ∈ rules := stored ((ordered_perm _).mem_iff.mp hb)
  exact h.eq_of_id ha' hb' (Rule.id_eq_of_precedes hab hba)

/-- The first of the rows that are left is the first in precedence. -/
theorem head?_ordered_filter {rules : List Rule} (h : Catalogue rules) (keep : Rule → Bool) :
    ((ordered rules).filter keep).head? = Rule.first? (rules.filter keep) := by
  have same : ((ordered rules).filter keep).Perm (rules.filter keep) :=
    (ordered_perm rules).filter keep
  cases hf : Rule.first? (rules.filter keep) with
  | none =>
    rw [Rule.first?_eq_none_iff.mp hf] at same
    rw [same.eq_nil, List.head?_nil]
  | some r =>
    have kept := Rule.first?_mem hf
    have before := Rule.first?_precedes hf
    have sorted := (ordered_pairwise rules).filter keep
    cases hrows : (ordered rules).filter keep with
    | nil =>
      rw [hrows] at same
      rw [← same.nil_eq] at kept
      cases kept
    | cons a rest =>
      rw [hrows] at same sorted
      have ha : a ∈ rules.filter keep := same.mem_iff.mp List.mem_cons_self
      rw [List.head?_cons]
      rcases List.mem_cons.mp (same.mem_iff.mpr kept) with rfl | later
      · rfl
      · -- Each of the two precedes the other.
        have id := Rule.id_eq_of_precedes ((List.pairwise_cons.mp sorted).1 r later) (before a ha)
        exact congrArg some (h.eq_of_id (List.mem_filter.mp ha).1 (List.mem_filter.mp kept).1 id)

/-- Inside the range of pages, places counted from the start are all there is. -/
theorem slice_eq_limited {α : Type} {limit offset : Int} (hl : 1 ≤ limit) (ho : 0 ≤ offset)
    (rows : List α) : slice offset limit rows = limited offset limit rows := by
  have start : place rows.length offset = min offset.toNat rows.length :=
    if_neg (by omega)
  have stop : place rows.length (offset + limit) = min (offset + limit).toNat rows.length :=
    if_neg (by omega)
  unfold slice limited
  dsimp only
  rw [start, stop, if_neg (by omega)]
  apply List.ext_getElem?
  intro i
  simp only [List.getElem?_drop, List.getElem?_take]
  by_cases inside : offset.toNat + i < rows.length
  · rw [show min offset.toNat rows.length = offset.toNat by omega]
    congr 1
    simp only [eq_iff_iff]
    omega
  · have beyond : rows[offset.toNat + i]? = none := List.getElem?_eq_none (by omega)
    have past : rows[min offset.toNat rows.length + i]? = none :=
      List.getElem?_eq_none (by omega)
    simp only [beyond, past, ite_self]

/-- A page with room for all rows holds them all. -/
theorem slice_all {α : Type} {limit : Int} {rows : List α} (h : rows.length ≤ limit) :
    slice 0 limit rows = rows := by
  have start : place rows.length 0 = 0 := by simp [place]
  have stop : place rows.length (0 + limit) = rows.length := by
    rw [place, if_neg (by omega)]
    omega
  unfold slice
  dsimp only
  rw [start, stop, List.take_length, List.drop_zero]

namespace Filters

def ofDepartment (f : Filters) : Rule → Bool :=
  match f.department with
  | .none => fun _ => true
  | .some code => fun r => r.department == .some code

def ofType (f : Filters) : Rule → Bool :=
  match f.documentType with
  | .none => fun _ => true
  | .some code => fun r => r.types.contains code

def onDay (f : Filters) : Rule → Bool :=
  match f.activeOn with
  | .none => fun _ => true
  | .some day => fun r => r.window.contains day

/-- The rule passes all filters. -/
def admits (f : Filters) (r : Rule) : Bool :=
  f.ofDepartment r && f.ofType r && f.onDay r

/-- A type and a day are filtered for as they are looked at when a rule is picked. -/
theorem admits_typed (department : Option String) (documentType : String) (day : Calendar.Day)
    (r : Rule) : admits ⟨department, documentType, day⟩ r =
      (ofDepartment ⟨department, documentType, day⟩ r && r.appliesTo documentType day) :=
  Bool.and_assoc _ _ _

end Filters

theorem Memory.search_eq (f : Filters) (limit offset : Int) (s : State) :
    Memory.search f limit offset s =
      let rows := (ordered s.rules).filter f.admits
      ⟨slice offset limit rows, rows.length⟩ := by
  have all (rows : List Rule) : (rows.filter fun _ => true) = rows :=
    List.filter_eq_self.mpr fun _ _ => rfl
  have each : (ordered s.rules).filter f.admits =
      (((ordered s.rules).filter f.ofDepartment).filter f.ofType).filter f.onDay := by
    simp only [List.filter_filter]
    apply List.filter_congr
    intro r _
    rw [Filters.admits]
    cases f.ofDepartment r <;> cases f.ofType r <;> simp
  rw [each]
  obtain ⟨department, documentType, activeOn⟩ := f
  cases department <;> cases documentType <;> cases activeOn <;>
    simp [Memory.search, Filters.ofDepartment, Filters.ofType, Filters.onDay, all]

theorem Table.conditions_eq (f : Filters) (r : Rule) :
    Table.conditions f r = (f.ofDepartment r && f.onDay r) := by
  obtain ⟨department, -, activeOn⟩ := f
  cases department <;> cases activeOn <;>
    simp [Table.conditions, Filters.ofDepartment, Filters.onDay, Table.inWindow_eq]

/-- Both stores search the same rows: memory sorts first, the table filters by department and day
first. -/
theorem Table.rows_eq {s : State} (h : Catalogue s.rules) (f : Filters) :
    (ordered (s.rules.filter (conditions f))).filter f.ofType =
      (ordered s.rules).filter f.admits := by
  rw [← ordered_filter h, List.filter_filter]
  apply List.filter_congr
  intro r _
  rw [Table.conditions_eq, Filters.admits]
  cases f.ofDepartment r <;> cases f.ofType r <;> cases f.onDay r <;> rfl

/-- With a document type the table cuts the page as memory does, whatever the limit. -/
theorem Table.search_typed {s : State} (h : Catalogue s.rules) {f : Filters} {code : String}
    (typed : f.documentType = some code) (limit offset : Int) :
    Table.search f limit offset s = .ok (Memory.search f limit offset s) := by
  have type : f.ofType = fun r => r.types.contains code := by simp only [Filters.ofType, typed]
  rw [Memory.search_eq]
  dsimp only
  rw [← rows_eq h, type]
  simp only [Table.search, typed]

theorem Table.search_eq_memory {s : State} (h : Catalogue s.rules) {f : Filters}
    {limit offset : Int} (hl : 1 ≤ limit) (ho : 0 ≤ offset)
    (bound : f.documentType = none → fits limit = true ∧ fits offset = true) :
    Table.search f limit offset s = .ok (Memory.search f limit offset s) := by
  cases ht : f.documentType with
  | some code => exact search_typed h ht limit offset
  | none =>
    have all : (ordered (s.rules.filter (conditions f))).filter f.ofType =
        ordered (s.rules.filter (conditions f)) :=
      List.filter_eq_self.mpr fun r _ => by simp [Filters.ofType, ht]
    obtain ⟨limit_fits, offset_fits⟩ := bound ht
    rw [Memory.search_eq]
    dsimp only
    rw [← rows_eq h, all]
    simp [Table.search, ht, limit_fits, offset_fits, slice_eq_limited hl ho,
      (ordered_perm _).length_eq]

/-- A typed search with room for all rules finds all rows that pass the filters. -/
theorem Engine.search_all {e : Engine} {s : State} (up : e ≠ .down) (h : Catalogue s.rules)
    {f : Filters} {code : String} (typed : f.documentType = some code) {limit : Int}
    (all : s.rules.length ≤ limit) : ∃ page, e.search f limit 0 s = .ok page ∧
      page.rows = (ordered s.rules).filter f.admits := by
  refine ⟨Memory.search f limit 0 s, ?_, ?_⟩
  · cases e with
    | memory => rfl
    | table lookup => exact Table.search_typed h typed limit 0
    | down => exact absurd rfl up
  · rw [Memory.search_eq]
    apply slice_all
    have fewer := List.length_filter_le f.admits (ordered s.rules)
    rw [(ordered_perm s.rules).length_eq] at fewer
    omega

/-- The table leaves out rules that do not govern, which changes nothing. -/
theorem Table.find_eq_memory (documentType department : String) (day : Calendar.Day) (s : State) :
    Table.find documentType department day s = Memory.find documentType department day s := by
  apply Rule.pick_filter
  intro r governs
  obtain ⟨applies, own⟩ := governs
  simp only [Rule.appliesTo, Bool.and_eq_true] at applies
  simpa [Table.inWindow_eq, applies.2] using own

theorem Engine.find_eq_pick {e : Engine} (up : e ≠ .down) (documentType department : String)
    (day : Calendar.Day) (s : State) :
    e.find documentType department day s = .ok (Rule.pick s.rules documentType department day) := by
  cases e with
  | memory => rfl
  | table lookup => exact congrArg Except.ok (Table.find_eq_memory documentType department day s)
  | down => exact absurd rfl up

end DocNumber.Store
