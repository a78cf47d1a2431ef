import DocNumber.Proofs.Issuing.Reachable
import DocNumber.Proofs.Store.Search

/-!
Searching page by page. Whoever asks for pages of one length, each from where the one before it
ended, and stops at the first that is empty, has read every rule that the filters ask for, once and
in strict order of precedence. Each page tells how many these are.
-/

namespace DocNumber

namespace Store

/-- The rule has what each filter that is given asks for. -/
structure Filters.Ask (f : Filters) (r : Rule) : Prop where
  department : ∀ code, f.department = some code → r.department = some code
  documentType : ∀ code, f.documentType = some code → code ∈ r.types
  activeOn : ∀ day, f.activeOn = some day →
    r.window.first ≤ day ∧ ∀ last, r.window.last = some last → day ≤ last

theorem Filters.admits_iff (f : Filters) (r : Rule) : f.admits r = true ↔ f.Ask r := by
  obtain ⟨department, documentType, activeOn⟩ := f
  rw [admits, Bool.and_eq_true, Bool.and_eq_true]
  constructor
  · rintro ⟨⟨own, type⟩, day⟩
    refine ⟨?_, ?_, ?_⟩
    · rintro code rfl
      simpa [ofDepartment] using own
    · rintro code rfl
      simpa [ofType] using type
    · rintro d rfl
      exact Window.contains_iff.mp day
  · rintro ⟨own, type, day⟩
    refine ⟨⟨?_, ?_⟩, ?_⟩
    · cases department with
      | none => rfl
      | some code => simpa [ofDepartment] using own code rfl
    · cases documentType with
      | none => rfl
      | some code => simpa [ofType] using type code rfl
    · cases activeOn with
      | none => rfl
      | some d => exact Window.contains_iff.mpr (day d rfl)

/-- The rules that pass the filters, in order of precedence. -/
def State.found (s : State) (f : Filters) : List Rule :=
  (ordered s.rules).filter f.admits

variable {e : Engine} {s : State} {f : Filters} {limit offset : Int}

theorem mem_found {r : Rule} : r ∈ s.found f ↔ r ∈ s.rules ∧ f.Ask r := by
  rw [State.found, List.mem_filter, (ordered_perm s.rules).mem_iff, Filters.admits_iff]

/-- Numbers of rules are unique, so the order is strict. -/
theorem found_before (h : Catalogue s.rules) : (s.found f).Pairwise Rule.Before := by
  have distinct : s.rules.Pairwise fun a b => a.id ≠ b.id := by
    rw [List.pairwise_iff_getElem]
    intro i j hi hj less same
    have first := h.numbered i _ (List.getElem?_eq_getElem hi)
    have second := h.numbered j _ (List.getElem?_eq_getElem hj)
    omega
  have sorted : (ordered s.rules).Pairwise fun a b => a.id ≠ b.id :=
    ((ordered_perm s.rules).pairwise_iff Ne.symm).mpr distinct
  have both := (ordered_pairwise s.rules).and sorted
  exact (both.imp fun ⟨le, ne⟩ => Rule.before_of_precedes le ne).filter _

theorem limited_eq (pos : 1 ≤ limit) {α : Type} (rows : List α) :
    limited offset limit rows = (rows.drop offset.toNat).take limit.toNat :=
  if_neg (by omega)

/-- A search answers with the page that is asked for and the number of all rows, or a number was
too large for the table. -/
theorem Engine.search_cases (up : e ≠ .down) (h : Catalogue s.rules) (pos : 1 ≤ limit)
    (nonneg : 0 ≤ offset) :
    e.search f limit offset s = .ok ⟨limited offset limit (s.found f), (s.found f).length⟩ ∨
      e.search f limit offset s = .error (.storage .overflow) ∧
        ¬(e.Takes limit ∧ e.Takes offset) := by
  have memory : Memory.search f limit offset s =
      ⟨limited offset limit (s.found f), (s.found f).length⟩ := by
    rw [Memory.search_eq, ← slice_eq_limited pos nonneg]
    rfl
  cases e with
  | memory => exact .inl (congrArg Except.ok memory)
  | table lookup =>
    by_cases bound : f.documentType = none → Table.fits limit = true ∧ Table.fits offset = true
    · have same := Table.search_eq_memory h pos nonneg bound
      exact .inl (same.trans (congrArg Except.ok memory))
    · rw [Classical.not_imp] at bound
      obtain ⟨untyped, large⟩ := bound
      rw [takes_table, takes_table]
      refine .inr ⟨?_, large⟩
      simp [Engine.search, Table.search, untyped, large]
  | down => exact absurd rfl up

theorem Engine.search_ok (up : e ≠ .down) (h : Catalogue s.rules) (pos : 1 ≤ limit)
    (nonneg : 0 ≤ offset) {page : Page} (asked : e.search f limit offset s = .ok page) :
    page = ⟨limited offset limit (s.found f), (s.found f).length⟩ := by
  rcases search_cases (f := f) up h pos nonneg with answered | ⟨failed, -⟩
  · exact Except.ok.inj (asked.symm.trans answered)
  · rw [failed] at asked
    cases asked

/-- Pages read from an offset on, each from where the one before it ended, up to the first that is
empty. -/
inductive Engine.Browse (e : Engine) (f : Filters) (limit : Int) (s : State) :
    Int → List Page → Prop
  | done {offset page} (asked : e.search f limit offset s = .ok page) (empty : page.rows = []) :
      Browse e f limit s offset []
  | more {offset page pages} (asked : e.search f limit offset s = .ok page)
      (filled : page.rows ≠ []) (rest : Browse e f limit s (offset + limit) pages) :
      Browse e f limit s offset (page :: pages)

/-- What is read are the rows from the offset on. -/
theorem Engine.Browse.rows (up : e ≠ .down) (h : Catalogue s.rules) (pos : 1 ≤ limit)
    {pages : List Page} (browse : e.Browse f limit s offset pages) :
    0 ≤ offset → pages.flatMap Page.rows = (s.found f).drop offset.toNat := by
  induction browse with
  | done asked empty =>
    intro nonneg
    rw [search_ok up h pos nonneg asked] at empty
    dsimp only at empty
    rw [limited_eq pos, List.take_eq_nil_iff] at empty
    rcases empty with zero | past
    · omega
    · exact past.symm
  | @more offset page pages asked _ _ ih =>
    intro nonneg
    have further : (offset + limit).toNat = offset.toNat + limit.toNat := by omega
    rw [search_ok up h pos nonneg asked, List.flatMap_cons, ih (by omega), further,
      ← List.drop_drop]
    dsimp only
    rw [limited_eq pos, List.take_append_drop]

/-- Pages can be read to the end where every offset on the way fits the store. -/
theorem Engine.exists_browse (up : e ≠ .down) (h : Catalogue s.rules) (pos : 1 ≤ limit)
    (takes : e.Takes limit)
    (offsets : ∀ k : Nat, k * limit < (s.found f).length + limit → e.Takes (k * limit)) (n : Nat) :
    ∀ k : Nat, (s.found f).length ≤ (k + n) * limit → k * limit < (s.found f).length + limit →
      ∃ pages, e.Browse f limit s (k * limit) pages := by
  have answered (k : Nat) (within : k * limit < (s.found f).length + limit) :
      e.search f limit (k * limit) s =
        .ok ⟨limited (k * limit) limit (s.found f), (s.found f).length⟩ := by
    have nonneg : 0 ≤ k * limit := Int.mul_nonneg (by omega) (by omega)
    rcases search_cases (f := f) up h pos nonneg with page | ⟨-, large⟩
    · exact page
    · exact absurd ⟨takes, offsets k within⟩ large
  have last (k : Nat) (past : (s.found f).length ≤ k * limit) :
      limited (k * limit) limit (s.found f) = [] := by
    rw [limited_eq pos, List.drop_eq_nil_of_le (by omega), List.take_nil]
  induction n with
  | zero =>
    intro k past within
    exact ⟨[], .done (answered k within) (last k (by simpa using past))⟩
  | succ n ih =>
    intro k past within
    by_cases empty : limited (k * limit) limit (s.found f) = []
    · exact ⟨[], .done (answered k within) empty⟩
    · have before : k * limit < (s.found f).length := by
        by_contra beyond
        exact empty (last k (by omega))
      have step : ((k + 1 : Nat) : Int) * limit = k * limit + limit := by
        rw [Int.natCast_succ, Int.add_mul, Int.one_mul]
      have shifted : ((k + 1 : Nat) : Int) + n = k + (n + 1 : Nat) := by omega
      obtain ⟨pages, rest⟩ := ih (k + 1) (shifted ▸ past) (by omega)
      rw [step] at rest
      exact ⟨_ :: pages, .more (answered k within) empty rest⟩

end Store

namespace Issuing

open Store

/-- Page after page, from the first offset to the first empty page, gives precisely the rules that
the filters ask for, in strict order; and every page, also one past the end, tells their number. -/
theorem pages_exhaust {e : Engine} {w : Course} (reached : Reachable e w) (up : e ≠ .down)
    (f : Filters) {limit : Int} (pos : 1 ≤ limit) (takes : e.Takes limit) :
    ∃ rows : List Rule,
      (∀ r, r ∈ rows ↔ r ∈ w.pool.state.rules ∧ f.Ask r) ∧ rows.Pairwise Rule.Before ∧
      (∀ offset, 0 ≤ offset → e.Takes offset →
        ∃ page, e.search f limit offset w.pool.state = .ok page ∧ page.total = rows.length) ∧
      (∀ pages, e.Browse f limit w.pool.state 0 pages → pages.flatMap Page.rows = rows) ∧
      ((∀ k : Nat, k * limit < rows.length + limit → e.Takes (k * limit)) →
        ∃ pages, e.Browse f limit w.pool.state 0 pages) := by
  have catalogue := reached.sound.valid.catalogue
  refine ⟨w.pool.state.found f, fun r => mem_found, found_before catalogue, ?_, ?_, ?_⟩
  · intro offset nonneg room
    rcases Engine.search_cases (f := f) up catalogue pos nonneg with answered | ⟨-, large⟩
    · exact ⟨_, answered, rfl⟩
    · exact absurd ⟨takes, room⟩ large
  · intro pages browse
    exact browse.rows up catalogue pos (Int.le_refl 0)
  · intro offsets
    have enough := Int.mul_le_mul_of_nonneg_left pos
      (Int.natCast_nonneg (w.pool.state.found f).length)
    obtain ⟨pages, browse⟩ :=
      Engine.exists_browse up catalogue pos takes offsets (w.pool.state.found f).length 0
        (by simpa using enough) (by omega)
    exact ⟨pages, by simpa using browse⟩

theorem pages_exhaust_single :
    let e := Engine.table true
    let s := (e.create { invoices with priority := 7 } (e.create invoices .empty).state).state
    let f : Filters := ⟨none, none, some order.day⟩
    e.Takes 1 ∧ ∃ pages, e.Browse f 1 s 0 pages ∧ (pages.flatMap Page.rows).Pairwise Rule.Before ∧
      ∀ r, r ∈ pages.flatMap Page.rows ↔ r ∈ s.rules ∧ f.Ask r := by
  intro e s f
  obtain ⟨w, reached, same⟩ : ∃ w, Reachable e w ∧ w.pool.state = s :=
    ⟨_, ((Reachable.start []).step (.create invoices)).step
      (.create { invoices with priority := 7 }), rfl⟩
  have small (k : Int) (low : 0 ≤ k) (high : k ≤ 2) : e.Takes k := by
    have word : 2 < Decimal.wordBound := by decide
    exact Engine.takes_of_bounds (by omega) (by omega)
  have one := small 1 (by decide) (by decide)
  obtain ⟨rows, asked, before, totals, read, whole⟩ :=
    pages_exhaust reached (by decide) f (Int.le_refl 1) one
  rw [same] at asked totals read whole
  -- The total on the first page bounds the offsets.
  obtain ⟨page, answered, total⟩ := totals 0 (Int.le_refl 0) (small 0 (by decide) (by decide))
  have two : (e.search f 1 0 s).map Page.total = .ok 2 := by decide +kernel
  rw [answered] at two
  have counted : page.total = 2 := Except.ok.inj two
  obtain ⟨pages, browse⟩ := whole fun k within => small _ (by omega) (by omega)
  rw [← read pages browse] at asked before
  exact ⟨one, pages, browse, before, asked⟩

end Issuing

end DocNumber
