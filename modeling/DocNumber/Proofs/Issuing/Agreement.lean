import DocNumber.Proofs.Issuing.Reachable
import DocNumber.Proofs.Store.Agreement

/-!
Issuing over either store. The store in memory and the table with a lookup answer every sequence of
operations alike (`runs_agree`), as long as what is stored and looked for fits the table.
-/

namespace DocNumber.Issuing

open Store

/-- Issuing at once, over either store. -/
def prompt (e : Engine) (guarded : Bool) (attempts : Nat) : Service :=
  ⟨e, .prompt, guarded, attempts⟩

variable (guarded : Bool) (attempts : Nat) {s : State}

theorem resolve_same (documentType department : String) (day : Calendar.Day) :
    (prompt (.table true) guarded attempts).resolve documentType department day s =
      (prompt .memory guarded attempts).resolve documentType department day s := by
  have found : Engine.find (.table true) documentType department day s =
      Engine.find .memory documentType department day s :=
    congrArg Except.ok (Table.find_eq_memory documentType department day s)
  simp only [Service.resolve, prompt, found]

/-- The value for a rule of the store, within the limit of the rule. -/
theorem scope_next_same (h : Kept s) {r : Rule} (hr : r ∈ s.rules) {limit : Nat}
    (hl : r.limit = .ok limit) {year month : Int} (hy : Table.fits year = true)
    (hm : Table.fits month = true) (department : String) :
    ((prompt (.table true) guarded attempts).next ⟨r.id, year, month, department⟩ limit s).Same
      ((prompt .memory guarded attempts).next ⟨r.id, year, month, department⟩ limit s) := by
  have usable := h.catalogue.usable r hr
  have nine := (usable.limit_bounds hl).1
  refine next_same h ?_ (by omega) hy hm (usable.fits_limit hl) true
  rw [h.catalogue.rule?_eq hr]
  rfl

/-! ## A call over either store -/

/-- The rule that the call works with is one of the store. -/
def Call.Stored (s : State) : Call → Prop
  | .allocating _ r limit _ => r ∈ s.rules ∧ r.limit = .ok limit
  | .allocated _ r _ _ => r ∈ s.rules
  | .checking _ r _ _ => r ∈ s.rules
  | _ => True

theorem attempt_stored {r : Rule} (hr : r ∈ s.rules) (q : Request) (k : Nat) :
    (Call.attempt q r k).Stored s := by
  unfold Call.attempt
  split
  · trivial
  · exact ⟨hr, ‹_›⟩

theorem Moves.stored {v : Service} {i : Nat} {t : State} {c c' : Call} {gs : List Grant}
    (h : Moves v i s c c' t gs) (hc : c.Stored s) : c'.Stored t := by
  cases h with
  | resolved hr => exact attempt_stored (resolve_found hr).1 _ 1
  | granted => exact hc.1
  | printed => exact hc
  | retried => exact attempt_stored hc _ _
  | ended => exact hc
  | unresolved | denied | unprintable | issued | duplicate | fresh => trivial

/-- A turn of a call does the same over either store. -/
theorem turn_same (h : Kept s) {c : Call} (hc : c.Stored s) :
    ((prompt (.table true) guarded attempts).turn c s).call =
        ((prompt .memory guarded attempts).turn c s).call ∧
      ((prompt (.table true) guarded attempts).turn c s).state =
        ((prompt .memory guarded attempts).turn c s).state := by
  cases c with
  | resolving q =>
    simp only [Service.turn, resolve_same, and_self]
  | allocating q r limit k =>
    obtain ⟨year, month⟩ := fits_day q.day
    obtain ⟨result, state⟩ := scope_next_same guarded attempts h hc.1 hc.2 year month
      q.department
    simp only [Service.turn, scopeOf, result, state]
    split <;> exact ⟨rfl, rfl⟩
  | allocated q r n k => exact ⟨rfl, rfl⟩
  | checking q r x k =>
    simp only [Service.turn, prompt, Engine.hasNumber, Memory.hasNumber, Bool.true_and]
    exact ⟨rfl, rfl⟩
  | finished result => exact ⟨rfl, rfl⟩

theorem run_same (cut : Call → Bool) (fuel : Nat) :
    ∀ {c : Call} {s : State}, Kept s → c.Stored s →
      ((prompt (.table true) guarded attempts).run cut fuel c s).call =
          ((prompt .memory guarded attempts).run cut fuel c s).call ∧
        ((prompt (.table true) guarded attempts).run cut fuel c s).state =
          ((prompt .memory guarded attempts).run cut fuel c s).state ∧
        ((prompt .memory guarded attempts).run cut fuel c s).state.rules = s.rules := by
  induction fuel with
  | zero =>
    intro c s h hc
    exact ⟨rfl, rfl, rfl⟩
  | succ fuel ih =>
    intro c s h hc
    unfold Service.run
    by_cases finished : c.isFinished = true
    · simp only [finished, ↓reduceIte, and_self]
    · by_cases off : cut c = true
      · simp only [finished, off, ↓reduceIte, and_self, Bool.false_eq_true]
      · obtain ⟨call, state⟩ := turn_same guarded attempts h hc
        have moves := turn_moves (prompt .memory guarded attempts) 0 c s
        obtain ⟨calls, states, rules⟩ := ih (h.of_rules moves.rules) (moves.stored hc)
        simp only [finished, off, ↓reduceIte, Bool.false_eq_true, call, state]
        exact ⟨calls, states, rules.trans moves.rules⟩

/-- A number generated alone is the same over either store. -/
theorem generate_same (h : Kept s) (cut : Call → Bool) (q : Request) :
    ((prompt (.table true) guarded attempts).generate cut q s).Same
        ((prompt .memory guarded attempts).generate cut q s) ∧
      Kept ((prompt .memory guarded attempts).generate cut q s).state := by
  have start : (Call.start q).Stored s := by
    unfold Call.start
    split <;> trivial
  obtain ⟨call, state, rules⟩ :=
    run_same guarded attempts cut (prompt .memory guarded attempts).bound h start
  exact ⟨⟨congrArg Call.result call, state⟩, h.of_rules rules⟩

/-! ## Sequences of operations -/

inductive Operation
  | create (d : Draft)
  | seed (ds : List Draft) (dry : Bool)
  | get (id : Int)
  | search (f : Filters) (limit offset : Int)
  | find (documentType department : String) (day : Calendar.Day)
  | next (scope : Scope) (greatest : Int)
  | allocate (r : Rule) (year month : Int) (department : String)
  | known (number : String)
  | generate (guarded : Bool) (attempts : Nat) (cut : Call → Bool) (q : Request)

inductive Answer
  | rule (result : Except Failure Rule)
  | count (result : Except Failure Nat)
  | found (result : Except Failure (Option Rule))
  | page (result : Except Failure Page)
  | value (result : Except Failure Int)
  | known (result : Bool)
  | issued (result : Except Failure Issued)

/-- What was answered, and the state after it. -/
def answered {α : Type} (answer : Except Failure α → Answer) (out : Outcome α) : Answer × State :=
  (answer out.result, out.state)

def Operation.run (e : Engine) (s : State) : Operation → Answer × State
  | .create d => answered .rule (e.create d s)
  | .seed ds dry => answered .count (if dry then Seed.dryRun ds s else Seed.insert e ds s)
  | .get id => (.found (e.get id s), s)
  | .search f limit offset => (.page (e.search f limit offset s), s)
  | .find documentType department day => (.found (e.find documentType department day s), s)
  | .next scope greatest => answered .value (e.next scope greatest s)
  | .allocate r year month department =>
    answered .value ((prompt e false 1).allocate r year month department s)
  | .known number => (.known (e.hasNumber number s), s)
  | .generate guarded attempts cut q =>
    answered .issued ((prompt e guarded attempts).generate cut q s)

/-- The answers to operations made in order, and the state after them. -/
def runs (e : Engine) : List Operation → State → List Answer × State
  | [], s => ([], s)
  | op :: ops, s =>
    let (answer, t) := op.run e s
    let (answers, u) := runs e ops t
    (answer :: answers, u)

/-- Pages start at a row and have room for one, values are asked for within the scopes of rules
that exist and up to one at least, and all numbers that the table stores or looks for fit it. -/
def Operation.allowed (s : State) : Operation → Bool
  | .create d => storable d s
  | .seed ds dry => dry || allStorable ds s
  | .get id => Table.fits id
  | .search f limit offset =>
    decide (1 ≤ limit) && decide (0 ≤ offset) &&
      (f.documentType.isSome || (Table.fits limit && Table.fits offset))
  | .next scope greatest =>
    (s.rule? scope.rule).isSome && decide (1 ≤ greatest) &&
      (Table.fits scope.year && Table.fits scope.month && Table.fits greatest)
  | .allocate r year month _ => decide (r ∈ s.rules) && (Table.fits year && Table.fits month)
  | .find _ _ _ | .known _ | .generate _ _ _ _ => true

/-- Each operation is allowed where its turn comes. -/
def allowed : List Operation → State → Bool
  | [], _ => true
  | op :: ops, s => op.allowed s && allowed ops (op.run .memory s).2

theorem answered_same {α : Type} {a b : Outcome α} (h : a.Same b)
    (answer : Except Failure α → Answer) : answered answer a = answered answer b := by
  unfold answered
  rw [h.1, h.2]

theorem allocate_same (h : Kept s) {r : Rule} (hr : r ∈ s.rules) {year month : Int}
    (hy : Table.fits year = true) (hm : Table.fits month = true) (department : String) :
    ((prompt (.table true) guarded attempts).allocate r year month department s).Same
      ((prompt .memory guarded attempts).allocate r year month department s) := by
  unfold Service.allocate
  cases hl : r.limit with
  | error f => exact ⟨rfl, rfl⟩
  | ok limit => exact scope_next_same guarded attempts h hr hl hy hm department

theorem allocate_rules (r : Rule) (year month : Int) (department : String) :
    ((prompt .memory guarded attempts).allocate r year month department s).state.rules =
      s.rules := by
  unfold Service.allocate
  cases r.limit with
  | error f => rfl
  | ok limit => exact next_rules .memory _ limit s

/-- An operation that is allowed has the same answer and effect over either store, and keeps the
rules in order. -/
theorem Operation.run_same (h : Kept s) {op : Operation} (ok : op.allowed s = true) :
    op.run (.table true) s = op.run .memory s ∧ Kept (op.run .memory s).2 := by
  cases op with
  | create d => exact ⟨answered_same (create_same h ok true) _, create_kept h ok⟩
  | seed ds dry =>
    cases dry with
    | true => exact ⟨rfl, h⟩
    | false =>
      obtain ⟨same, kept⟩ := insertFrom_same true 0 h ok
      exact ⟨answered_same same _, kept⟩
  | get id =>
    have fits : Table.fits id = true := ok
    refine ⟨?_, h⟩
    simp only [Operation.run, Engine.get, Table.get, Memory.get, fits, ↓reduceIte]
  | search f limit offset =>
    simp only [Operation.allowed, Bool.and_eq_true, decide_eq_true_eq] at ok
    obtain ⟨⟨pos, nonneg⟩, bound⟩ := ok
    have same := Table.search_eq_memory h.catalogue (f := f) pos nonneg fun none => by
      simpa [none] using bound
    refine ⟨?_, h⟩
    simp only [Operation.run, Engine.search, same]
  | find documentType department day =>
    refine ⟨?_, h⟩
    simp only [Operation.run, Engine.find, Table.find_eq_memory]
  | next scope greatest =>
    simp only [Operation.allowed, Bool.and_eq_true, decide_eq_true_eq] at ok
    obtain ⟨⟨known, pos⟩, ⟨year, month⟩, bound⟩ := ok
    exact ⟨answered_same (next_same h known pos year month bound true) _,
      h.of_rules (next_rules .memory scope greatest s)⟩
  | allocate r year month department =>
    simp only [Operation.allowed, Bool.and_eq_true, decide_eq_true_eq] at ok
    obtain ⟨stored, hy, hm⟩ := ok
    exact ⟨answered_same (allocate_same false 1 h stored hy hm department) _,
      h.of_rules (allocate_rules false 1 r year month department)⟩
  | known number =>
    refine ⟨?_, h⟩
    simp only [Operation.run, Engine.hasNumber, Memory.hasNumber, Bool.true_and]
  | generate guarded attempts cut q =>
    obtain ⟨same, kept⟩ := generate_same guarded attempts h cut q
    exact ⟨answered_same same _, kept⟩

theorem runs_same (ops : List Operation) :
    ∀ {s : State}, Kept s → allowed ops s = true →
      runs (.table true) ops s = runs .memory ops s := by
  induction ops with
  | nil =>
    intro s h ok
    rfl
  | cons op ops ih =>
    intro s h ok
    simp only [allowed, Bool.and_eq_true] at ok
    obtain ⟨same, kept⟩ := Operation.run_same h ok.1
    unfold runs
    rw [same]
    dsimp only
    rw [ih kept ok.2]

/-- From an empty store on, with the same numbers known. -/
theorem runs_agree (known : List String) (ops : List Operation)
    (ok : allowed ops (.fresh known) = true) :
    runs .memory ops (.fresh known) = runs (.table true) ops (.fresh known) :=
  (runs_same ops (.empty known) ok).symm

/-- Every operation once, one of them refused, and a number that is known already. -/
def tour : List Operation :=
  [.create invoices, .create { invoices with digits := 19 }, .seed [invoices] false, .get 2,
    .search ⟨none, some "INV", none⟩ 1 0, .find "INV" "T" order.day,
    .next ⟨1, 2025, 3, "T"⟩ 999, .allocate (Rule.ofDraft 1 invoices) 2025 3 "T",
    .known "T-202503-003", .generate true 3 (fun _ => false) order]

theorem runs_agree_tour : allowed tour (.fresh ["T-202503-003"]) = true ∧
    runs .memory tour (.fresh ["T-202503-003"]) =
      runs (.table true) tour (.fresh ["T-202503-003"]) := by
  have ok : allowed tour (.fresh ["T-202503-003"]) = true := by decide +kernel
  exact ⟨ok, runs_agree _ tour ok⟩

end DocNumber.Issuing
