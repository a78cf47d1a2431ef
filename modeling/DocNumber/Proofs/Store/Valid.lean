import DocNumber.Proofs.Store.Counter

/-!
What holds of a store at all times: its rules form a catalogue, the numbers of rules fit the
table if they are kept in one, and every counter belongs to a rule and lies within its limit.
-/

namespace DocNumber.Store

/-- A value that a rule can have handed out. -/
structure InLimit (r : Rule) (n : Int) : Prop where
  pos : 1 ≤ n
  le : ∃ limit, r.limit = .ok limit ∧ n ≤ limit

structure Valid (e : Engine) (s : State) : Prop where
  catalogue : Catalogue s.rules
  held : ∀ lookup, e = .table lookup → ∀ r ∈ s.rules, Table.fits r.id = true
  counted : ∀ scope n, s.counters.last? scope = some n →
    ∃ r ∈ s.rules, r.id = scope.rule ∧ InLimit r n

theorem Valid.empty (e : Engine) (known : List String) : Valid e (.fresh known) where
  catalogue := .empty
  held := by simp
  counted := by simp [Counters.last?]

/-- A table that is down holds what it held. -/
theorem Valid.down {e : Engine} {s : State} (h : Valid e s) : Valid .down s where
  catalogue := h.catalogue
  held := by simp
  counted := h.counted

theorem Valid.create {e : Engine} {s : State} (h : Valid e s) (d : Draft) :
    Valid e (e.create d s).state := by
  rcases e.create_cases d h.catalogue with ⟨f, -, same⟩ | ⟨d', accepted, -, added, fits⟩
  · rw [same]
    exact h
  · rw [added]
    refine ⟨h.catalogue.concat (Draft.usable_of_accept accepted _) rfl, ?_, ?_⟩
    · intro lookup table r hr
      rcases List.mem_append.mp hr with old | new
      · exact h.held lookup table r old
      · obtain rfl := List.mem_singleton.mp new
        exact fits lookup table
    · intro scope n hn
      obtain ⟨r, hr, rest⟩ := h.counted scope n hn
      exact ⟨r, List.mem_append_left _ hr, rest⟩

theorem Valid.insert {e : Engine} {s : State} (h : Valid e s) (ds : List Draft) :
    Valid e (Seed.insert e ds s).state :=
  insertFrom_induction (fun d _ hs => hs.create d) ds 0 s h

theorem Valid.putCounter {e : Engine} {s : State} (h : Valid e s) {r : Rule} (hr : r ∈ s.rules)
    {scope : Scope} (hid : r.id = scope.rule) {n : Int} (hn : InLimit r n) :
    Valid e (s.putCounter scope n) where
  catalogue := h.catalogue
  held := h.held
  counted := by
    intro other m hm
    change Counters.last? (Counters.put scope n s.counters) other = some m at hm
    rw [Counters.last?_put] at hm
    split at hm
    · rename_i same
      cases hm
      exact ⟨r, hr, same ▸ hid, hn⟩
    · exact h.counted other m hm

theorem Valid.last_nonneg {e : Engine} {s : State} (h : Valid e s) (scope : Scope) :
    0 ≤ s.counters.last scope := by
  cases hl : s.counters.last? scope with
  | none => exact Int.le_of_eq (last_of_none hl).symm
  | some n =>
    obtain ⟨_, _, _, inLimit⟩ := h.counted scope n hl
    have := inLimit.pos
    rw [last_of_last? hl]
    omega

theorem Valid.last_le {e : Engine} {s : State} (h : Valid e s) {r : Rule} (hr : r ∈ s.rules)
    {scope : Scope} (hid : r.id = scope.rule) {limit : Nat} (hl : r.limit = .ok limit) :
    s.counters.last scope ≤ limit := by
  cases hc : s.counters.last? scope with
  | none => rw [last_of_none hc]; omega
  | some n =>
    obtain ⟨a, ha, haid, _, limit', hlimit, le⟩ := h.counted scope n hc
    obtain rfl := h.catalogue.eq_of_id ha hr (haid.trans hid.symm)
    obtain rfl : limit' = limit := by simpa [hl] using hlimit.symm
    rw [last_of_last? hc]
    exact le

end DocNumber.Store
