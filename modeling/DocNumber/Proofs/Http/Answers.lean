import DocNumber.Proofs.Http.Astray

/-!
Answers to requests. Each request to an endpoint is answered with a status of the list, or goes
astray and changes nothing; the store goes on as in one of its courses, and so the same holds of the
next request. What becomes of a torn body is not followed.
-/

namespace DocNumber.Http

open Store Issuing

variable {a : App} {m : Platform} {e : Engine} {q : Incoming} {w : World} {p : Endpoint}
  {c : Course}

/-! ## One request -/

/-- A service stays as it is, or its table is down. -/
theorem App.serviceIn_cases (a : App) (w : World) :
    a.serviceIn w = a.service ∨ (a.serviceIn w).engine = .down := by
  unfold App.serviceIn
  split
  · split
    · exact .inl rfl
    · exact .inr rfl
  · exact .inl rfl

theorem issue_ends (reached : Reachable a.service.engine c) (same : w.state = c.pool.state)
    (cut : Call → Bool) (r : Request) :
    (∀ f, ((a.serviceIn w).generate cut r w.state).result = .error f → f.Foreseen) ∧
      ∃ u, Later a.service.engine c u ∧
        ((a.serviceIn w).generate cut r w.state).state = u.pool.state := by
  rw [same]
  rcases a.serviceIn_cases w with up | down
  · rw [up]
    obtain ⟨u, _, later, -, -, state, -⟩ := generate_later c rfl cut r
    exact ⟨fun f failed => generate_foreseen reached failed, u, later, state.symm⟩
  · have valid : Valid (a.serviceIn w).engine c.pool.state := by
      rw [down]
      exact reached.sound.valid.down
    obtain ⟨foreseen, state⟩ := generate_down down valid cut r
    exact ⟨foreseen, c, .refl, state⟩

theorem create_later (same : w.state = c.pool.state) (d : Draft) :
    ∃ u, Later a.service.engine c u ∧
      ((a.serviceIn w).engine.create d w.state).state = u.pool.state := by
  rw [same]
  rcases a.serviceIn_cases w with up | down
  · rw [up]
    exact ⟨_, .single (.create d), rfl⟩
  · rw [down]
    refine ⟨c, .refl, ?_⟩
    unfold Engine.create
    dsimp only
    split <;> rfl

/-- Each way not to read a body has its own end; a body that was read is up to `go`. -/
theorem App.posted_ends {α : Type} {read : Json.Members → Fields.Checked α} {go : α → Served}
    (taken : ∀ u, Spoilt a.platform q u p ↔ a.platform.readBodyAs q read = .error u)
    (whole : ¬Spoilt a.platform q .torn p)
    (done : ∀ x, a.platform.readBodyAs q read = .ok x → Ends a.platform e q p w (go x)) :
    Ends a.platform e q p w (a.posted p read go q w) := by
  unfold App.posted
  cases found : a.platform.readBodyAs q read with
  | ok x => exact done x found
  | error u =>
    have spoilt : Spoilt a.platform q u p := (taken u).mpr found
    cases u with
    | issues issues =>
      refine .answered ?_ (by decide : 422 ∈ statuses)
      rintro _ (large | other | other)
      · exact spoilt.not_oversize large
      · cases spoilt.unique other
      · cases spoilt.unique other
    | undecodable => exact .astray (.undecodable spoilt) rfl rfl
    | unwritten => exact .astray (.unwritten spoilt) rfl rfl
    | torn => exact absurd spoilt whole

theorem App.createRule_ends (catalogue : Catalogue w.state.rules)
    (whole : ¬Spoilt a.platform q .torn .createRule) :
    Ends a.platform (a.serviceIn w).engine q .createRule w (a.createRule q w) := by
  refine posted_ends (fun u => Iff.rfl) whole fun d read => ?_
  have large : ((a.serviceIn w).engine.create d w.state).result = .error (.storage .overflow) ↔
      Oversize a.platform (a.serviceIn w).engine q .createRule := by
    simp [Oversize, read, Engine.create_overflow_iff]
  refine .of_result (by simp [Spoilt, read]) large (fun f failed => ?_)
    (fun f failed => by simp only [App.served, failed]) (fun x made => ?_) fun beyond => ?_
  · rcases Engine.create_failure failed with ⟨r, rfl⟩ | stored
    · exact .inr rfl
    · exact overflow_or_foreseen stored
  · simp only [App.served, made]
    exact (by decide : 201 ∈ statuses)
  · -- What escapes must not have been stored.
    rcases Engine.create_cases (a.serviceIn w).engine d catalogue with
      ⟨_, -, still⟩ | ⟨_, -, made, -⟩
    · simp only [App.served, still]
    · rw [made] at beyond
      cases beyond

theorem App.searchRules_ends :
    Ends m (a.serviceIn w).engine q .searchRules w (kept w (a.searchRules q w)) := by
  unfold App.searchRules
  cases read : App.readSearch (queryMembers q.query) with
  | error found =>
    exact .answered (straight_of (by simp [Oversize, read]) fun _ => not_false)
      (by decide : 422 ∈ statuses)
  | ok s =>
    have takes : (a.serviceIn w).engine.Takes s.limit := by
      obtain ⟨low, high⟩ := readSearch_limit read
      have word : 500 < Decimal.wordBound := by decide
      exact Engine.takes_of_bounds (by omega) (by omega)
    have large : (a.serviceIn w).engine.search s.filters s.limit s.offset w.state =
        .error (.storage .overflow) ↔ Oversize m (a.serviceIn w).engine q .searchRules := by
      simp [Oversize, read, Engine.search_overflow_iff takes]
    refine .of_result (fun _ => not_false) large
      (fun f failed => overflow_or_foreseen (Engine.search_failure failed))
      (fun f failed => by simp only [kept, failed]) (fun page found => ?_) fun _ => rfl
    simp only [kept, found]
    exact (by decide : 200 ∈ statuses)

theorem App.getRule_ends (id : String) :
    Ends m (a.serviceIn w).engine q (.getRule id) w (kept w (a.getRule id w)) := by
  unfold App.getRule
  cases read : Fields.readInt (.text id) with
  | error found =>
    exact .answered (straight_of (by simp [Oversize, read]) fun _ => not_false)
      (by decide : 422 ∈ statuses)
  | ok n =>
    have large : (a.serviceIn w).engine.get n w.state = .error (.storage .overflow) ↔
        Oversize m (a.serviceIn w).engine q (.getRule id) := by
      simp [Oversize, read, Engine.get_overflow_iff]
    refine .of_result (fun _ => not_false) large
      (fun f failed => overflow_or_foreseen (Engine.get_failure failed))
      (fun f failed => by simp only [kept, failed]) (fun row found => ?_) fun _ => rfl
    cases row with
    | none =>
      simp only [kept, found]
      exact (by decide : 404 ∈ statuses)
    | some r =>
      simp only [kept, found]
      exact (by decide : 200 ∈ statuses)

theorem App.issueNumber_ends (reached : Reachable a.service.engine c)
    (same : w.state = c.pool.state) (whole : ¬Spoilt a.platform q .torn .issueNumber) :
    Ends a.platform (a.serviceIn w).engine q .issueNumber w (a.issueNumber q w) := by
  refine posted_ends (fun u => Iff.rfl) whole fun r read => ?_
  exact .answered (straight_of not_false (by simp [Spoilt, read]))
    (served_mapped (by decide) _ (issue_ends reached same _ r).1)

theorem App.run_ends (reached : Reachable a.service.engine c) (same : w.state = c.pool.state)
    (whole : ¬Spoilt a.platform q .torn p) :
    Ends a.platform (a.serviceIn w).engine q p w (a.run p q w) := by
  cases p with
  | health =>
    exact .answered (straight_of not_false fun _ => not_false) (by decide : 200 ∈ statuses)
  | deepHealth =>
    exact .answered (straight_of not_false fun _ => not_false)
      (deepHealth_mapped w.database a.newest)
  | createRule => exact createRule_ends (same ▸ reached.sound.valid.catalogue) whole
  | searchRules => exact searchRules_ends
  | getRule id => exact getRule_ends id
  | issueNumber => exact issueNumber_ends reached same whole

/-! ## Requests on their way -/

theorem way_method {method path : String} (h : wayTo method path = .found p) :
    method = "GET" ∨ method = "POST" := by
  unfold wayTo at h
  dsimp only at h
  split at h
  · rename_i own e first
    have same : own = method := by simpa using List.find?_some first
    obtain ⟨r, listed, leads⟩ := List.mem_filterMap.mp (List.mem_of_find?_eq_some first)
    obtain ⟨_, -, pair⟩ := Option.map_eq_some_iff.mp leads
    have known : ∀ r ∈ routes, r.method = "GET" ∨ r.method = "POST" := by simp [routes]
    rw [← same, ← (Prod.mk.inj pair).1]
    exact known r listed
  · split at h
    · cases h
    · split at h <;> cases h

/-- What is added for other origins leaves the end of a request as it is. -/
theorem Ends.wrap {cors : Cors} {out : Served} (h : Ends m e q p w out) :
    Ends m e q p w { out with answer := cors.wrap q out.answer } := by
  have outcome := wrap_outcome cors q out.answer
  cases h with
  | answered straight mapped =>
    refine .answered straight ?_
    rw [mapped_iff_outcome] at mapped ⊢
    rwa [outcome]
  | astray way ended still => exact .astray way (outcome.trans ended) still

theorem App.handle_ends (reached : Reachable a.service.engine c) (same : w.state = c.pool.state)
    (way : wayTo q.method q.path = .found p) (whole : ¬Spoilt a.platform q .torn p) :
    Ends a.platform (a.serviceIn w).engine q p w (a.handle q w) := by
  have direct : Cors.preflight? ⟨a.settings.origins⟩ q = none := by
    rcases way_method way with get | post <;> simp [Cors.preflight?, *]
  simp only [App.handle, direct, App.dispatch, way]
  exact (run_ends reached same whole).wrap

/-- A body that is not read leaves the store alone, unless it is torn. -/
theorem App.posted_later {α : Type} {read : Json.Members → Fields.Checked α} {go : α → Served}
    (same : w.state = c.pool.state) (whole : a.platform.readBodyAs q read ≠ .error .torn)
    (done : ∀ x, ∃ u, Later e c u ∧ (go x).world.state = u.pool.state) :
    ∃ u, Later e c u ∧ (a.posted p read go q w).world.state = u.pool.state := by
  unfold App.posted
  split
  · exact done _
  · exact ⟨c, .refl, same⟩
  · exact ⟨c, .refl, same⟩
  · exact ⟨c, .refl, same⟩
  · exact absurd ‹_› whole

theorem App.run_later (reached : Reachable a.service.engine c) (same : w.state = c.pool.state)
    (whole : ¬Spoilt a.platform q .torn p) :
    ∃ u, Later a.service.engine c u ∧ (a.run p q w).world.state = u.pool.state := by
  cases p with
  | createRule => exact posted_later same whole fun d => create_later same d
  | issueNumber => exact posted_later same whole fun r => (issue_ends reached same _ r).2
  | health | deepHealth | searchRules | getRule => exact ⟨c, .refl, same⟩

/-- Whatever comes in, the store goes on as in one of its courses. -/
theorem App.handle_later (reached : Reachable a.service.engine c) (same : w.state = c.pool.state)
    (whole : ∀ p, wayTo q.method q.path = .found p → ¬Spoilt a.platform q .torn p) :
    ∃ u, Later a.service.engine c u ∧ (a.handle q w).world.state = u.pool.state := by
  unfold App.handle
  dsimp only
  split
  · exact ⟨c, .refl, same⟩
  · unfold App.dispatch
    dsimp only
    split
    · rename_i p way
      exact run_later reached same (whole p way)
    · exact ⟨c, .refl, same⟩
    · exact ⟨c, .refl, same⟩
    · exact ⟨c, .refl, same⟩

/-- Worlds that requests lead to, whatever becomes of the database meanwhile. Each request is served
under settings of its own. -/
inductive Visited (e : Engine) : World → Prop
  | start (database : Schema.Database) (known : List String) :
      Visited e ⟨database, .fresh known⟩
  | request {w : World} (a : App) (store : a.service.engine = e) (q : Incoming)
      (whole : ∀ p, wayTo q.method q.path = .found p → ¬Spoilt a.platform q .torn p) :
      Visited e w → Visited e (a.handle q w).world
  | database {w : World} (d : Schema.Database) : Visited e w → Visited e { w with database := d }

theorem Visited.reached (h : Visited e w) : ∃ c, Reachable e c ∧ w.state = c.pool.state := by
  induction h with
  | start database known => exact ⟨_, .start known, rfl⟩
  | request a store q whole _ ih =>
    obtain ⟨c, reached, same⟩ := ih
    subst store
    obtain ⟨u, later, state⟩ := App.handle_later reached same whole
    exact ⟨u, reached.later later, state⟩
  | database d _ ih => exact ih

/-- Requests for numbers that take turns are answered with a status of the list, each of them. Any
request to an endpoint is answered so exactly where it goes astray in no way; one that goes astray
ends as that way has it and changes nothing. And wherever requests lead, the same holds of the
next. -/
theorem answered_iff (reached : Reachable e c) :
    (∀ call ∈ c.pool.calls, ∀ w,
      (App.served w 201 App.issuedJson ⟨call.result, c.pool.state, []⟩).answer.Mapped) ∧
    ∀ (a : App) (q : Incoming) (p : Endpoint) (w : World), a.service.engine = e →
      w.state = c.pool.state → wayTo q.method q.path = .found p →
      ¬Spoilt a.platform q .torn p →
      ((a.handle q w).answer.Mapped ↔ ∀ o, ¬Astray a.platform (a.serviceIn w).engine q p o) ∧
      (∀ o, Astray a.platform (a.serviceIn w).engine q p o →
        (a.handle q w).answer.outcome = o ∧ (a.handle q w).world = w) ∧
      ∃ u, Later e c u ∧ (a.handle q w).world.state = u.pool.state := by
  constructor
  · intro call made w
    exact served_mapped (by decide) _ fun f failed => call_foreseen reached made failed
  · rintro a q p w rfl same way whole
    have ends := App.handle_ends reached same way whole
    refine ⟨ends.mapped_iff, fun o => ends.of_astray, App.handle_later reached same ?_⟩
    rintro p' way'
    obtain rfl := Way.found.inj (way.symm.trans way')
    exact whole

/-- A service over a table, with the usual settings. -/
def overTable : App :=
  { settings := ⟨"", none, false, 1, none, none⟩
    service := { plain with engine := .table false }
    newest := none
    platform := .usual
    torn := fun _ _ w => App.kept w (.escaped .unwritten) }

def ready : World :=
  ⟨⟨true, true, none⟩, .empty⟩

def asking (path : String) : Incoming :=
  ⟨"GET", "test", path, "", [], []⟩

/-- A rule that prints its sequence only. -/
def posting : Incoming :=
  let body :=
    "\x7b\"rule_name\":\"Invoices\",\"template\":\"\x7bseq\x7d\",\"sequence_digits\":3," ++
      "\"document_type_codes\":[\"INV\"],\"effective_from\":\"2025-01-01\"\x7d"
  { method := "POST"
    host := "test"
    path := rulesPath
    query := ""
    headers := [("content-type", "application/json")]
    body := body.toList.map Char.toNat }

theorem posting_read :
    Platform.usual.readBodyAs posting Draft.ofMembers =
      .ok { invoices with template := "\x7bseq\x7d", priority := 0 } := by
  decide +kernel

theorem answered_iff_posted :
    (overTable.handle posting ready).answer.Mapped ∧
      let w := (overTable.handle posting ready).world
      (overTable.handle (asking "/api/v1/numbering-rules/1") w).answer.Mapped := by
  have way : wayTo posting.method posting.path = .found .createRule := by decide +kernel
  have unspoilt (u : Unread) : ¬Spoilt overTable.platform posting u .createRule := by
    intro spoilt
    cases posting_read.symm.trans spoilt
  have whole (p : Endpoint) (h : wayTo posting.method posting.path = .found p) :
      ¬Spoilt overTable.platform posting .torn p := by
    obtain rfl := Way.found.inj (way.symm.trans h)
    exact unspoilt .torn
  have visited : Visited (.table false) ready := .start ready.database []
  have ⟨c, reached, same⟩ := visited.reached
  constructor
  · rw [((answered_iff reached).2 overTable posting .createRule ready rfl same way
      (unspoilt .torn)).1]
    refine straight_of ?_ unspoilt
    rintro ⟨d, read, -, large⟩
    obtain rfl := Except.ok.inj (posting_read.symm.trans read)
    exact large (Engine.takes_of_bounds (by decide) (by decide))
  · intro w
    have visited : Visited (.table false) w :=
      .request overTable rfl posting whole visited
    -- What the first request does to the store need not be worked out.
    clear_value w
    obtain ⟨c, reached, same⟩ := visited.reached
    have way : wayTo "GET" "/api/v1/numbering-rules/1" = .found (.getRule "1") := by
      decide +kernel
    refine ((answered_iff reached).2 overTable (asking "/api/v1/numbering-rules/1")
      (.getRule "1") w rfl same way not_false).1.mpr (straight_of ?_ fun _ => not_false)
    rintro ⟨n, read, large⟩
    have one : Fields.readInt (.text "1") = .ok 1 := by decide +kernel
    obtain rfl := Except.ok.inj (one.symm.trans read)
    exact large (Engine.takes_of_bounds (by decide) (by decide))

/-- The first id that no word holds. -/
theorem getRule_escapes :
    let path := "/api/v1/numbering-rules/9223372036854775808"
    wayTo "GET" path = .found (.getRule "9223372036854775808") ∧
      (overTable.handle (asking path) ready).answer.outcome =
        .error (.failure (.storage .overflow)) ∧
      ¬(overTable.handle (asking path) ready).answer.Mapped := by
  intro path
  have way : wayTo "GET" path = .found (.getRule "9223372036854775808") := by decide +kernel
  have reached : Reachable overTable.service.engine _ := .start []
  have ends := App.handle_ends (q := asking path) (w := ready) reached rfl way not_false
  have beyond : Oversize overTable.platform (overTable.serviceIn ready).engine (asking path)
      (.getRule "9223372036854775808") :=
    ⟨9223372036854775808, by decide +kernel, fun takes => absurd (takes false rfl) (by decide)⟩
  exact ⟨way, (ends.of_astray (.oversize beyond)).1,
    fun mapped => ends.mapped_iff.mp mapped _ (.oversize beyond)⟩

end DocNumber.Http
