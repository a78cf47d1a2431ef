import DocNumber.Proofs.Seed.Insertion

/-!
Where inserting stops. The drafts before the first one that fails are kept as rules, in their order
and under the next numbers, and its failure is the answer; nothing behind it is looked at
(`insert_stops`). Neither store takes anything back, nor touches a counter.
-/

namespace DocNumber.Store

variable {e : Engine} {s : State} {d : Draft} {ds : List Draft} {k : Nat}

/-- Drafts that pass, up to a place for which there are numbers enough. -/
theorem insertable_take {n : Nat} (passed : ∀ c ∈ ds.take k, c.accept = .ok c.normalize)
    (priorities : ∀ d ∈ ds, e.Takes d.priority) (room : e.Takes (n + k)) :
    Insertable e n (ds.take k) where
  sound c hc := (Draft.accept_ok_iff.mp (passed c hc)).1
  priorities c hc := priorities c (List.mem_of_mem_take hc)
  numbers i hi := by
    rw [List.length_take] at hi
    exact room.of_le (by omega) (by omega)

theorem Catalogue.addRules (up : e ≠ .down) (h : Catalogue s.rules)
    (taken : Insertable e s.rules.length ds) :
    Catalogue (s.addRules (rulesAfter s.rules.length ds)).rules := by
  rw [← insertFrom_state up ds 0 s h taken]
  exact insertFrom_induction (P := fun t => Catalogue t.rules) (fun d _ ht => ht.create e d)
    ds 0 s h

theorem length_addRules_take (s : State) (here : ds[k]? = some d) :
    (s.addRules (rulesAfter s.rules.length (ds.take k))).rules.length = s.rules.length + k := by
  have inside := (List.getElem?_eq_some_iff.mp here).1
  simp only [State.addRules, List.length_append, length_rulesAfter, List.length_take]
  omega

/-- A draft that fails behind drafts that the store takes ends the run. -/
theorem insertFrom_stop {f : Failure} (up : e ≠ .down) (h : Catalogue s.rules)
    (here : ds[k]? = some d) (taken : Insertable e s.rules.length (ds.take k))
    (failed : (e.create d (s.addRules (rulesAfter s.rules.length (ds.take k)))).result = .error f)
    (counted : Nat) :
    (Seed.insertFrom e counted ds s).result = .error f ∧
      (Seed.insertFrom e counted ds s).state =
        (e.create d (s.addRules (rulesAfter s.rules.length (ds.take k)))).state := by
  obtain ⟨inside, rfl⟩ := List.getElem?_eq_some_iff.mp here
  have parts : ds.take k ++ ds[k] :: ds.drop (k + 1) = ds := by
    rw [← List.drop_eq_getElem_cons inside, List.take_append_drop]
  obtain ⟨result, state⟩ :=
    insertFrom_append up (ds.take k) (ds[k] :: ds.drop (k + 1)) counted s h taken
  rw [parts, Seed.insertFrom] at result state
  simp only [failed] at result state
  exact ⟨result, state⟩

end DocNumber.Store

namespace DocNumber.Seed

open Store Issuing

/-- If every draft passes, all are inserted and counted. If not, the first that does not pass is the
answer, and the store holds exactly the normal forms of those before it, under the numbers after its
own. A table that has no number left, which takes all the numbers of a word, stops likewise at the
first draft for which there is none. -/
theorem insert_stops {e : Engine} {w : Course} (reached : Reachable e w) (up : e ≠ .down)
    (ds : List Draft) (priorities : ∀ d ∈ ds, e.Takes d.priority) :
    let s := w.pool.state
    let n := s.rules.length
    let out := insert e ds s
    ((∀ d ∈ ds, d.accept = .ok d.normalize) → e.Takes (n + ds.length) →
      out.result = .ok ds.length ∧ out.state = s.addRules (rulesAfter n ds)) ∧
    (∀ k d r, ds[k]? = some d → (∀ c ∈ ds.take k, c.accept = .ok c.normalize) →
      d.accept = .error r → e.Takes (n + k) →
      out.result = .error (.refused r) ∧ out.state = s.addRules (rulesAfter n (ds.take k))) ∧
    (∀ k d, ds[k]? = some d → (∀ c ∈ ds.take k, c.accept = .ok c.normalize) →
      d.accept = .ok d.normalize → e.Takes (n + k) → ¬e.Takes (n + k + 1) →
      out.result = .error (.storage .unavailable) ∧
        out.state = s.addRules (rulesAfter n (ds.take k))) ∧
    out.state.counters = s.counters := by
  intro s n out
  have valid : Valid e s := reached.sound.valid
  refine ⟨?_, ?_, ?_, (insert_grown valid ds).2⟩
  · intro passed room
    have taken : Insertable e n (ds.take ds.length) :=
      insertable_take (by rwa [List.take_length]) priorities room
    rw [List.take_length] at taken
    exact ⟨(insertFrom_ok_iff up ds 0 s valid.catalogue _).mpr ⟨taken, (Nat.zero_add _).symm⟩,
      insertFrom_state up ds 0 s valid.catalogue taken⟩
  · intro k d r here passed refused room
    have taken : Insertable e n (ds.take k) := insertable_take passed priorities room
    have outcome := e.create_refused refused (s.addRules (rulesAfter n (ds.take k)))
    have stop :=
      insertFrom_stop up valid.catalogue here taken (congrArg Outcome.result outcome) 0
    rw [outcome] at stop
    exact stop
  · intro k d here passed sound room full
    have taken : Insertable e n (ds.take k) := insertable_take passed priorities room
    have none_left : ¬e.Takes ((s.addRules (rulesAfter n (ds.take k))).rules.length + 1) := by
      rw [length_addRules_take s here]
      exact_mod_cast full
    obtain ⟨result, state⟩ := Engine.create_full (valid.catalogue.addRules up taken)
      (Draft.accept_ok_iff.mp sound).1 (priorities d (List.mem_of_getElem? here)) none_left
    have stop := insertFrom_stop up valid.catalogue here taken result 0
    rw [state] at stop
    exact stop

/-- The second of three drafts has no digits: the first stays, the third is not reached. -/
theorem insert_stops_undigited :
    let s := (twice invoices order nextOrder).pool.state
    let first := { invoices with department := some " T " }
    let ds := [first, { invoices with digits := 0 }, { invoices with digits := 4 }]
    (insert .memory ds s).result = .error (.refused .digitsOutOfRange) ∧
      (insert .memory ds s).state = s.addRules [Rule.ofDraft 2 first.normalize] ∧
      (insert .memory ds s).state.counters = s.counters := by
  intro s first ds
  obtain ⟨-, stopped, -, counters⟩ := insert_stops (twice_reached invoices order nextOrder)
    (by decide) ds fun d _ => Engine.takes_memory d.priority
  have passed : ∀ c ∈ ds.take 1, c.accept = .ok c.normalize := by
    intro c hc
    obtain rfl := List.mem_singleton.mp hc
    exact Draft.accept_ok_iff.mpr ⟨by decide +kernel, rfl⟩
  have refused : Draft.accept { invoices with digits := 0 } = .error .digitsOutOfRange :=
    Draft.accept_error_iff.mpr (by decide +kernel)
  obtain ⟨result, state⟩ := stopped 1 _ _ rfl passed refused (Engine.takes_memory _)
  have one : s.rules.length = 1 := by decide +kernel
  refine ⟨result, ?_, counters⟩
  rw [state, one]
  rfl

end DocNumber.Seed
