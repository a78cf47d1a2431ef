import DocNumber.Proofs.Issuing.TemplateFaults
import DocNumber.Proofs.Issuing.Undisturbed

/-!
Calls made one after the other, and what they have to do with each other. A call reads and moves
the counter of one scope at most, and reads rules and known numbers, which no call changes. So the
calls of a scope are answered as if they were alone, and two neighbours change places without
effect unless they ask for values of one scope.
-/

namespace DocNumber.Store

/-- Two states alike in rules and known numbers, and in the counters of some scopes. -/
structure State.Alike (here : Scope → Prop) (s t : State) : Prop where
  rules : t.rules = s.rules
  known : t.known = s.known
  counters : ∀ scope, here scope → t.counters.last? scope = s.counters.last? scope

namespace State.Alike

variable {here there : Scope → Prop} {s t u : State}

theorem refl (here : Scope → Prop) (s : State) : s.Alike here s :=
  ⟨rfl, rfl, fun _ _ => rfl⟩

theorem symm (h : s.Alike here t) : t.Alike here s :=
  ⟨h.rules.symm, h.known.symm, fun scope hs => (h.counters scope hs).symm⟩

theorem trans (h : s.Alike here t) (h' : t.Alike here u) : s.Alike here u where
  rules := h'.rules.trans h.rules
  known := h'.known.trans h.known
  counters scope hs := (h'.counters scope hs).trans (h.counters scope hs)

theorem mono (h : s.Alike here t) (less : ∀ scope, there scope → here scope) : s.Alike there t :=
  ⟨h.rules, h.known, fun scope hs => h.counters scope (less scope hs)⟩

theorem putCounter (h : s.Alike here t) (scope : Scope) (n : Int) :
    (s.putCounter scope n).Alike here (t.putCounter scope n) where
  rules := h.rules
  known := h.known
  counters other ho := by
    change Counters.last? (Counters.put _ _ _) _ = Counters.last? (Counters.put _ _ _) _
    rw [Counters.last?_put, Counters.last?_put, h.counters other ho]

/-- Handing out a value leaves every other scope alone. -/
theorem of_put (s : State) (scope : Scope) (n : Int) :
    s.Alike (· ≠ scope) (s.putCounter scope n) where
  rules := rfl
  known := rfl
  counters other ho := by
    change Counters.last? (Counters.put _ _ _) _ = _
    rw [Counters.last?_put, if_neg (Ne.symm ho)]

end State.Alike

theorem Engine.hasNumber_congr (e : Engine) {s t : State} (same : t.known = s.known)
    (number : String) : e.hasNumber number t = e.hasNumber number s := by
  cases e <;> simp only [Engine.hasNumber, Memory.hasNumber, same]

/-- What a scope is given depends on its own counter alone. -/
theorem Engine.next_alike (e : Engine) {here : Scope → Prop} {s t : State} (h : s.Alike here t)
    {scope : Scope} (hs : here scope) (greatest : Int) :
    (e.next scope greatest t).result = (e.next scope greatest s).result ∧
      (e.next scope greatest s).state.Alike here (e.next scope greatest t).state := by
  have counter := h.counters scope hs
  cases e with
  | memory =>
    have last : t.counters.last scope = s.counters.last scope := by
      simp only [Counters.last, counter]
    simp only [Engine.next, Memory.next_eq, last]
    split
    · exact ⟨rfl, h⟩
    · exact ⟨rfl, h.putCounter _ _⟩
  | table lookup =>
    obtain ⟨result, state⟩ := Engine.next_table lookup scope greatest s
    obtain ⟨result', state'⟩ := Engine.next_table lookup scope greatest t
    have known : t.rule? scope.rule = s.rule? scope.rule := by
      simp only [State.rule?, h.rules]
    rw [result, result', state, state']
    simp only [Table.next, counter, known]
    split
    · exact ⟨rfl, h⟩
    · split
      · split
        · exact ⟨rfl, h.putCounter _ _⟩
        · exact ⟨rfl, h⟩
      · split
        · exact ⟨rfl, h.putCounter _ _⟩
        · exact ⟨rfl, h⟩
  | down => exact ⟨rfl, h⟩

end DocNumber.Store

namespace DocNumber.Issuing

open Store

theorem Service.next_alike (v : Service) {here : Scope → Prop} {s t : State} (h : s.Alike here t)
    {scope : Scope} (hs : here scope) (greatest : Int) :
    (v.next scope greatest t).result = (v.next scope greatest s).result ∧
      (v.next scope greatest s).state.Alike here (v.next scope greatest t).state := by
  unfold Service.next
  split
  · exact ⟨rfl, h⟩
  · exact v.engine.next_alike h hs greatest

/-! ## One call -/

/-- The call has found its rule, and works in one of the scopes. -/
def Call.In (here : Scope → Prop) : Call → Prop
  | .resolving _ => False
  | .allocating q r _ _ | .allocated q r _ _ | .checking q r _ _ => here (scopeOf r q)
  | .finished _ => True

variable {v : Service} {cut : Call → Bool} {here : Scope → Prop} {s t : State} {c : Call}

theorem attempt_in {q : Request} {r : Rule} (h : here (scopeOf r q)) (k : Nat) :
    (Call.attempt q r k).In here := by
  unfold Call.attempt
  split
  · trivial
  · exact h

/-- Such a call stays in its scopes, and leaves the others alone. -/
theorem Moves.apart {i : Nat} {c' : Call} {gs : List Grant} (h : Moves v i s c c' t gs)
    (hc : c.In here) : c'.In here ∧ s.Alike (fun scope => ¬here scope) t := by
  have same := State.Alike.refl (fun scope => ¬here scope) s
  cases h with
  | unresolved | resolved => exact hc.elim
  | granted =>
    refine ⟨hc, (State.Alike.of_put _ _ _).mono ?_⟩
    rintro scope outside rfl
    exact outside hc
  | retried => exact ⟨attempt_in hc _, same⟩
  | printed => exact ⟨hc, same⟩
  | denied | unprintable | issued | duplicate | fresh | ended => exact ⟨trivial, same⟩

/-- In states alike in its scopes, such a call takes the same turn. -/
theorem turn_alike (h : s.Alike here t) (hc : c.In here) :
    (v.turn c t).call = (v.turn c s).call ∧ (v.turn c s).state.Alike here (v.turn c t).state := by
  cases c with
  | resolving q => exact hc.elim
  | allocating q r limit k =>
    obtain ⟨result, state⟩ := v.next_alike h hc limit
    simp only [Service.turn, result]
    split <;> exact ⟨rfl, state⟩
  | allocated q r n k =>
    simp only [Service.turn]
    split
    · exact ⟨rfl, h⟩
    · split <;> exact ⟨rfl, h⟩
  | checking q r x k =>
    simp only [Service.turn, v.engine.hasNumber_congr h.known]
    split
    · split <;> exact ⟨rfl, h⟩
    · exact ⟨rfl, h⟩
  | finished result => exact ⟨rfl, h⟩

theorem run_alike (fuel : Nat) :
    ∀ {c : Call} {s t : State}, s.Alike here t → (cut c = false → c.In here) →
      (v.run cut fuel c t).call = (v.run cut fuel c s).call ∧
        (v.run cut fuel c s).state.Alike here (v.run cut fuel c t).state ∧
        s.Alike (fun scope => ¬here scope) (v.run cut fuel c s).state := by
  induction fuel with
  | zero =>
    intro c s t h _
    exact ⟨rfl, h, .refl _ s⟩
  | succ fuel ih =>
    intro c s t h hc
    unfold Service.run
    split
    · exact ⟨rfl, h, .refl _ s⟩
    · split
      · exact ⟨rfl, h, .refl _ s⟩
      · rename_i uncut
        have inside := hc (eq_false_of_ne_true uncut)
        obtain ⟨call, state⟩ := turn_alike (v := v) h inside
        obtain ⟨inside', outside⟩ := (turn_moves v 0 c s).apart inside
        obtain ⟨calls, states, others⟩ := ih state fun _ => inside'
        dsimp only
        rw [call]
        exact ⟨calls, states, outside.trans others⟩

/-- A call that is made: what it asks for, and where it is cut off. -/
structure Ask where
  request : Request
  cut : Call → Bool

/-- The scope that a call asks a value of. Its first turn finds the rule; a call that has ended
with that turn, or is cut off then, is rejected before it asks for any. -/
def Service.asks? (v : Service) (s : State) (a : Ask) : Option Scope :=
  match (v.run a.cut 1 (.start a.request) s).call with
  | .allocating q r limit k =>
    if a.cut (.allocating q r limit k) then none else some (scopeOf r q)
  | _ => none

/-- How a call begins, with the scope that it asks a value of. The rules decide it. -/
inductive Begins (v : Service) (s : State) (a : Ask) : Option Scope → Prop
  | rejected {f : Failure}
      (ends : ∀ t, t.rules = s.rules → (v.generate a.cut a.request t).result = .error f ∧
        (v.generate a.cut a.request t).state = t) : Begins v s a none
  | asking {q : Request} {r : Rule} {limit : Nat}
      (resolved : v.scope? s a.request = some (scopeOf r q))
      (uncut : a.cut (.allocating q r limit 1) = false)
      (goes : ∀ t, t.rules = s.rules → (v.generate a.cut a.request t).result =
          (v.run a.cut (3 * v.tries + 1) (.allocating q r limit 1) t).call.result ∧
        (v.generate a.cut a.request t).state =
          (v.run a.cut (3 * v.tries + 1) (.allocating q r limit 1) t).state) :
      Begins v s a (some (scopeOf r q))

/-- A call that has found its rule asks for a value, unless the rule has no limit or the call is
cut off. -/
theorem Service.Resolves.begins {a : Ask} {q : Request} {r : Rule}
    (h : v.Resolves a.cut s a.request q r) : Begins v s a (v.asks? s a) := by
  have opened : (v.run a.cut 1 (.start a.request) s).call = .attempt q r 1 := by
    simp [Call.start, h.accepted, Service.run, Call.isFinished, h.inTime, Service.turn, h.found]
  have resolves (t : State) (rules : t.rules = s.rules) : v.Resolves a.cut t a.request q r :=
    ⟨h.accepted, (resolve_congr v rules _ _ _).trans h.found, h.inTime⟩
  unfold Service.asks?
  rw [opened]
  cases hl : r.limit with
  | error o =>
    have attempt : Call.attempt q r 1 = .refused (r.unlimited (scopeOf r q) o) := by
      simp only [Call.attempt, hl]
    rw [attempt]
    exact .rejected fun t rules => (resolves t rules).unlimited hl
  | ok limit =>
    have attempt : Call.attempt q r 1 = .allocating q r limit 1 := by
      simp only [Call.attempt, hl]
    rw [attempt]
    by_cases off : a.cut (.allocating q r limit 1) = true
    · simp only [off, ↓reduceIte]
      refine .rejected (f := .timedOut) fun t rules => ?_
      obtain ⟨result, state⟩ := (resolves t rules).generate
      rw [result, state, attempt, Service.run]
      simp [Call.isFinished, off, Call.cut, Call.result]
    · simp only [off, ↓reduceIte, Bool.false_eq_true]
      refine .asking (scope?_eq_some h.accepted h.found) (eq_false_of_ne_true off) ?_
      intro t rules
      rw [← attempt]
      exact (resolves t rules).generate

theorem begins (v : Service) (s : State) (a : Ask) : Begins v s a (v.asks? s a) := by
  cases ha : a.request.accept with
  | error f =>
    have start : Call.start a.request = .refused f := by simp only [Call.start, ha]
    have none : v.asks? s a = none := by
      simp only [Service.asks?, start, Call.refused, run_of_finished]
    rw [none]
    refine .rejected (f := .refused f) fun t _ => ?_
    rw [Service.generate, start, Call.refused, run_of_finished]
    exact ⟨rfl, rfl⟩
  | ok q =>
    have start : Call.start a.request = .resolving q := by simp only [Call.start, ha]
    by_cases off : a.cut (.resolving q) = true
    · have none : v.asks? s a = none := by
        simp [Service.asks?, start, Service.run, Call.isFinished, off, Call.cut]
      rw [none]
      refine .rejected (f := .timedOut) fun t _ => ?_
      simp [Service.generate, start, Service.bound, Service.run, Call.isFinished, off, Call.cut,
        Call.result]
    · have inTime := eq_false_of_ne_true off
      cases hr : v.resolve q.documentType q.department q.day s with
      | error f =>
        have none : v.asks? s a = none := by
          simp [Service.asks?, start, Service.run, Call.isFinished, inTime, Service.turn, hr]
        rw [none]
        refine .rejected (f := f) fun t rules => ?_
        have unresolved := (resolve_congr v rules _ _ _).trans hr
        simp [Service.generate, start, Service.bound, Service.run, Call.isFinished, inTime,
          Service.turn, unresolved, Call.result]
      | ok r => exact Service.Resolves.begins ⟨ha, hr, inTime⟩

theorem asks?_congr (v : Service) {s t : State} (rules : t.rules = s.rules) (a : Ask) :
    v.asks? t a = v.asks? s a := by
  have opened : (v.run a.cut 1 (.start a.request) t).call =
      (v.run a.cut 1 (.start a.request) s).call := by
    unfold Call.start
    cases a.request.accept with
    | error f => simp only [Call.refused, run_of_finished]
    | ok q =>
      by_cases off : a.cut (.resolving q) = true
      · simp [Service.run, Call.isFinished, off]
      · simp only [Service.run, Call.isFinished, off, Service.turn, resolve_congr v rules,
          Bool.false_eq_true, ↓reduceIte]
        split <;> rfl
  unfold Service.asks?
  rw [opened]

theorem scope?_congr (v : Service) {s t : State} (rules : t.rules = s.rules) (q : Request) :
    v.scope? t q = v.scope? s q := by
  simp only [Service.scope?, resolve_congr v rules]

/-- A value is asked of the scope that the request resolves to, if of any. -/
theorem scope?_of_asks? {a : Ask} {scope : Scope} (h : v.asks? s a = some scope) :
    v.scope? s a.request = some scope := by
  have started := begins v s a
  rw [h] at started
  cases started with
  | asking resolved => exact resolved

/-- A call is answered alike in states that are alike in the scope it asks, and leaves every other
scope alone. -/
theorem generate_alike {a : Ask} (asks : ∀ scope, v.asks? s a = some scope → here scope)
    (h : s.Alike here t) :
    (v.generate a.cut a.request t).result = (v.generate a.cut a.request s).result ∧
      (v.generate a.cut a.request s).state.Alike here (v.generate a.cut a.request t).state := by
  have started := begins v s a
  generalize v.asks? s a = asked at started asks
  cases started with
  | rejected ends =>
    obtain ⟨result, state⟩ := ends s rfl
    obtain ⟨result', state'⟩ := ends t h.rules
    rw [result, state, result', state']
    exact ⟨rfl, h⟩
  | @asking q r limit _ _ goes =>
    obtain ⟨result, state⟩ := goes s rfl
    obtain ⟨result', state'⟩ := goes t h.rules
    have inside : (Call.allocating q r limit 1).In here := asks _ rfl
    obtain ⟨calls, states, -⟩ := run_alike (v := v) (3 * v.tries + 1) h fun _ => inside
    rw [result, state, result', state', calls]
    exact ⟨rfl, states⟩

theorem generate_apart (v : Service) (s : State) (a : Ask) :
    s.Alike (fun scope => v.asks? s a ≠ some scope) (v.generate a.cut a.request s).state := by
  have started := begins v s a
  generalize v.asks? s a = asked at started
  cases started with
  | rejected ends =>
    rw [(ends s rfl).2]
    exact .refl _ s
  | @asking q r limit _ _ goes =>
    have inside : (Call.allocating q r limit 1).In (· = scopeOf r q) := rfl
    obtain ⟨-, -, others⟩ := run_alike (v := v) (3 * v.tries + 1) (.refl _ s) fun _ => inside
    rw [(goes s rfl).2]
    exact others.mono fun scope other same => other (congrArg some same.symm)

/-! ## Calls in a row -/

/-- Calls made one after the other: each with its answer, and the state after all of them. -/
def Service.series (v : Service) : List Ask → State → List (Ask × Except Failure Issued) × State
  | [], s => ([], s)
  | a :: asks, s =>
    let out := v.generate a.cut a.request s
    let rest := v.series asks out.state
    ((a, out.result) :: rest.1, rest.2)

theorem generate_rules (v : Service) (s : State) (a : Ask) :
    (v.generate a.cut a.request s).state.rules = s.rules :=
  (generate_apart v s a).rules

theorem series_append (v : Service) (xs ys : List Ask) (s : State) :
    v.series (xs ++ ys) s = ((v.series xs s).1 ++ (v.series ys (v.series xs s).2).1,
      (v.series ys (v.series xs s).2).2) := by
  induction xs generalizing s with
  | nil => rfl
  | cons a xs ih =>
    simp only [List.cons_append, Service.series]
    rw [ih]

theorem series_asks (v : Service) (asks : List Ask) (s : State) :
    (v.series asks s).1.map Prod.fst = asks := by
  induction asks generalizing s with
  | nil => rfl
  | cons a asks ih => simp only [Service.series, List.map_cons, ih]

theorem series_rules (v : Service) (asks : List Ask) (s : State) :
    (v.series asks s).2.rules = s.rules := by
  induction asks generalizing s with
  | nil => rfl
  | cons a asks ih => exact (ih _).trans (generate_rules v s a)

/-- In states that do not differ, calls in a row are answered alike. -/
theorem series_same (v : Service) (asks : List Ask) {s t : State}
    (h : s.Alike (fun _ => True) t) : (v.series asks t).1 = (v.series asks s).1 ∧
      (v.series asks s).2.Alike (fun _ => True) (v.series asks t).2 := by
  induction asks generalizing s t with
  | nil => exact ⟨rfl, h⟩
  | cons a asks ih =>
    obtain ⟨result, state⟩ := generate_alike (a := a) (v := v) (fun _ _ => trivial) h
    obtain ⟨results, states⟩ := ih state
    simp only [Service.series, result, results]
    exact ⟨trivial, states⟩

/-- The calls that resolve to a scope are answered as if the others were not made. -/
theorem series_filter (v : Service) (scope : Scope) (asks : List Ask) {base s t : State}
    (rules : s.rules = base.rules) (h : s.Alike (· = scope) t) :
    let mine : Ask → Bool := fun a => v.scope? base a.request = some scope
    (v.series (asks.filter mine) t).1 = (v.series asks s).1.filter (fun x => mine x.1) ∧
      (v.series asks s).2.Alike (· = scope) (v.series (asks.filter mine) t).2 := by
  intro mine
  induction asks generalizing s t with
  | nil => exact ⟨rfl, h⟩
  | cons a asks ih =>
    have rules' := (generate_rules v s a).trans rules
    by_cases own : mine a = true
    · have asked (other : Scope) (ha : v.asks? s a = some other) : other = scope := by
        have resolved := scope?_of_asks? ha
        rw [scope?_congr v rules] at resolved
        exact Option.some.inj (resolved.symm.trans (of_decide_eq_true own))
      obtain ⟨result, state⟩ := generate_alike asked h
      obtain ⟨results, states⟩ := ih rules' state
      simp only [List.filter_cons, own, ↓reduceIte, Service.series, result, results]
      exact ⟨trivial, states⟩
    · have outside : s.Alike (· = scope) (v.generate a.cut a.request s).state := by
        apply (generate_apart v s a).mono
        rintro other rfl ha
        have resolved := scope?_of_asks? ha
        rw [scope?_congr v rules] at resolved
        exact own (decide_eq_true resolved)
      obtain ⟨results, states⟩ := ih rules' (outside.symm.trans h)
      simp only [List.filter_cons, own, ↓reduceIte, Service.series, Bool.false_eq_true, results]
      exact ⟨trivial, states⟩

/-- Two calls that do not ask for values of one scope can change places. -/
theorem generate_swap (v : Service) (s : State) {a b : Ask}
    (apart : ∀ scope, v.asks? s a = some scope → v.asks? s b ≠ some scope) :
    let first := v.generate a.cut a.request s
    let second := v.generate b.cut b.request s
    (v.generate b.cut b.request first.state).result = second.result ∧
      (v.generate a.cut a.request second.state).result = first.result ∧
      (v.generate b.cut b.request first.state).state.Alike (fun _ => True)
        (v.generate a.cut a.request second.state).state := by
  intro first second
  have after_a := generate_apart v s a
  have after_b := generate_apart v s b
  obtain ⟨result_b, state_b⟩ := generate_alike (a := b) (v := v)
    (fun scope hb ha => apart scope ha hb) after_a
  obtain ⟨result_a, state_a⟩ := generate_alike (a := a) (v := v) apart after_b
  have still_a := generate_apart v second.state a
  have still_b := generate_apart v first.state b
  rw [asks?_congr v after_b.rules] at still_a
  rw [asks?_congr v after_a.rules] at still_b
  refine ⟨result_b, result_a, still_a.rules.trans state_b.rules.symm,
    still_a.known.trans state_b.known.symm, ?_⟩
  intro scope _
  by_cases ha : v.asks? s a = some scope
  · have hb := apart scope ha
    exact (state_a.counters scope hb).trans (still_b.counters scope hb).symm
  · exact (still_a.counters scope ha).trans (state_b.counters scope ha).symm

/-- The calls of a scope are answered, and leave its counter, as if no others were made; and two
neighbours of different scopes, or of which one is rejected before it asks for a value, change
places without any call being answered otherwise or the store ending otherwise. -/
theorem scopes_apart (v : Service) (s : State) :
    (∀ (asks : List Ask) (scope : Scope),
      let mine : Ask → Bool := fun a => v.scope? s a.request = some scope
      (v.series (asks.filter mine) s).1 = (v.series asks s).1.filter (fun x => mine x.1) ∧
        (v.series (asks.filter mine) s).2.counters.last? scope =
          (v.series asks s).2.counters.last? scope) ∧
    ∀ (before after : List Ask) (a b : Ask),
      (v.scope? s a.request ≠ v.scope? s b.request ∨ v.asks? s a = none ∨ v.asks? s b = none) →
      ∃ xs x y ys, xs.map Prod.fst = before ∧ ys.map Prod.fst = after ∧
        (v.series (before ++ a :: b :: after) s).1 = xs ++ (a, x) :: (b, y) :: ys ∧
        (v.series (before ++ b :: a :: after) s).1 = xs ++ (b, y) :: (a, x) :: ys ∧
        (v.series (before ++ a :: b :: after) s).2.Alike (fun _ => True)
          (v.series (before ++ b :: a :: after) s).2 := by
  constructor
  · intro asks scope mine
    have rules : s.rules = s.rules := rfl
    obtain ⟨answers, alike⟩ := series_filter v scope asks rules (.refl _ s)
    exact ⟨answers, alike.counters scope rfl⟩
  · intro before after a b differ
    have rules := series_rules v before s
    have apart : ∀ scope, v.asks? (v.series before s).2 a = some scope →
        v.asks? (v.series before s).2 b ≠ some scope := by
      intro scope ha hb
      rw [asks?_congr v rules] at ha hb
      rcases differ with resolved | none | none
      · exact resolved ((scope?_of_asks? ha).trans (scope?_of_asks? hb).symm)
      · rw [none] at ha
        cases ha
      · rw [none] at hb
        cases hb
    obtain ⟨result_b, result_a, alike⟩ := generate_swap v _ apart
    obtain ⟨answers, same⟩ := series_same v after alike
    let later := v.series after
      (v.generate b.cut b.request (v.generate a.cut a.request (v.series before s).2).state).state
    refine ⟨(v.series before s).1, (v.generate a.cut a.request (v.series before s).2).result,
      (v.generate b.cut b.request (v.series before s).2).result, later.1, series_asks v before s,
      series_asks v after _, ?ordered, ?exchanged, ?final⟩
    case ordered => simp only [series_append, Service.series, result_b, later]
    case exchanged => simp only [series_append, Service.series, result_a, answers, later]
    case final =>
      simp only [series_append, Service.series]
      exact same

/-- Orders of two months and one of an unlisted type: the months change places, and so do the last
month and the order that is rejected. -/
theorem scopes_apart_months :
    let s := (Engine.memory.create invoices .empty).state
    let march : Ask := ⟨order, fun _ => false⟩
    let april : Ask := ⟨nextOrder, fun _ => false⟩
    let unlisted : Ask := ⟨{ order with documentType := "PO" }, fun _ => false⟩
    plain.scope? s march.request ≠ plain.scope? s april.request ∧ plain.asks? s unlisted = none ∧
      (∃ xs x y ys, xs.map Prod.fst = [march] ∧ ys.map Prod.fst = [unlisted] ∧
        (plain.series [march, march, april, unlisted] s).1 = xs ++ (march, x) :: (april, y) :: ys ∧
        (plain.series [march, april, march, unlisted] s).1 = xs ++ (april, y) :: (march, x) :: ys ∧
        (plain.series [march, march, april, unlisted] s).2.Alike (fun _ => True)
          (plain.series [march, april, march, unlisted] s).2) ∧
      ∃ xs x y ys, xs.map Prod.fst = [march, march] ∧ ys.map Prod.fst = [] ∧
        (plain.series [march, march, april, unlisted] s).1 =
          xs ++ (april, x) :: (unlisted, y) :: ys ∧
        (plain.series [march, march, unlisted, april] s).1 =
          xs ++ (unlisted, y) :: (april, x) :: ys ∧
        (plain.series [march, march, april, unlisted] s).2.Alike (fun _ => True)
          (plain.series [march, march, unlisted, april] s).2 := by
  intro s march april unlisted
  have months : plain.scope? s march.request ≠ plain.scope? s april.request := by decide +kernel
  have rejected : plain.asks? s unlisted = none := by decide +kernel
  obtain ⟨-, exchange⟩ := scopes_apart plain s
  exact ⟨months, rejected, exchange [march] [unlisted] march april (.inl months),
    exchange [march, march] [] april unlisted (.inr (.inr rejected))⟩

end DocNumber.Issuing
