import DocNumber.Proofs.Issuing.Separation
import Mathlib.Order.Bounds.Basic

/-!
The attempts of one call that runs alone and is not cut off. Each attempt takes the next value of
the scope and prints it; a number that is known is passed over. `Attempted` lists what one attempt
can come to, `Passed` is what holds between two of them, and `generate_tried` says how the call
ends and where it leaves the store.
-/

namespace DocNumber.Issuing

open Store

/-- The counter of `scope` stands at `n`, and the rest is as it was. -/
structure OnlyMoved (s : State) (scope : Scope) (n : Int) (t : State) : Prop where
  counter : t.counters.last scope = n
  rest : s.Alike (· ≠ scope) t

theorem OnlyMoved.put {s t : State} {scope : Scope} {m : Int} (h : OnlyMoved s scope m t)
    (n : Int) : OnlyMoved s scope n (t.putCounter scope n) where
  counter := by
    change Counters.last (Counters.put _ _ _) _ = _
    rw [last_put, if_pos rfl]
  rest := h.rest.trans (.of_put t scope n)

/-- The value `k` places after the last one of the scope. -/
def valueAfter (r : Rule) (q : Request) (s : State) (k : Nat) : Int :=
  s.counters.last (scopeOf r q) + k

/-- How many of these a call can get in `A` attempts. -/
def withinReach (A : Nat) (r : Rule) (q : Request) (s : State) (limit : Nat) : Nat :=
  min A (limit - s.counters.last (scopeOf r q)).toNat

/-- The rule prints a number for this value, and it is not known. -/
def FreshAt (known : String → Bool) (r : Rule) (q : Request) (n : Int) : Prop :=
  ∃ x, number r q n = .ok x ∧ known x.number = false

/-- How a call ends that makes `A` attempts in `s`, and how it leaves the store. It returns the
number of the first value within reach whose number is not known. Where there is none it is
refused: for the attempts if the scope has values for all of them, else for the scope. -/
inductive Tried (A : Nat) (known : String → Bool) (r : Rule) (q : Request) (s : State)
    (limit : Nat) : Except Failure Issued → State → Prop
  | fresh {k : Nat} {x : Issued} {t : State}
      (least : IsLeast {k : Nat | 1 ≤ k ∧ k ≤ withinReach A r q s limit ∧
        FreshAt known r q (valueAfter r q s k)} k)
      (printed : number r q (valueAfter r q s k) = .ok x)
      (value : x.sequence = valueAfter r q s k)
      (moved : OnlyMoved s (scopeOf r q) (valueAfter r q s k) t) :
      Tried A known r q s limit (.ok x) t
  | duplicate {t : State} (enough : A ≤ limit - s.counters.last (scopeOf r q))
      (stale : ∀ k : Nat, 1 ≤ k → k ≤ withinReach A r q s limit →
        ¬FreshAt known r q (valueAfter r q s k))
      (moved : OnlyMoved s (scopeOf r q) (valueAfter r q s (withinReach A r q s limit)) t) :
      Tried A known r q s limit (.error (.refused (.duplicate A r.id))) t
  | exhausted {t : State} (short : limit - s.counters.last (scopeOf r q) < A)
      (stale : ∀ k : Nat, 1 ≤ k → k ≤ withinReach A r q s limit →
        ¬FreshAt known r q (valueAfter r q s k))
      (moved : OnlyMoved s (scopeOf r q) (valueAfter r q s (withinReach A r q s limit)) t) :
      Tried A known r q s limit (.error (.refused (.exhausted (scopeOf r q) limit))) t

namespace Service

variable {v : Service}

/-- How a call ends that runs alone and is not cut off, and the state it leaves. -/
def outcome (v : Service) (fuel : Nat) (c : Call) (s : State) : Except Failure Issued × State :=
  ((v.run (fun _ => false) fuel c s).call.result, (v.run (fun _ => false) fuel c s).state)

theorem outcome_finished (fuel : Nat) (result : Except Failure Issued) (s : State) :
    v.outcome fuel (.finished result) s = (result, s) := by
  rw [outcome, run_of_finished]
  rfl

theorem outcome_turn {c : Call} (waits : c.isFinished = false) (fuel : Nat) (s : State) :
    v.outcome (fuel + 1) c s = v.outcome fuel (v.turn c s).call (v.turn c s).state := by
  simp [outcome, run, waits]

/-- The number is compared, and known. -/
def passesOver (v : Service) (s : State) (number : String) : Bool :=
  v.guarded && v.engine.hasNumber number s

theorem passesOver_congr {s t : State} (same : t.known = s.known) :
    v.passesOver t = v.passesOver s := by
  funext number
  rw [passesOver, passesOver, v.engine.hasNumber_congr same]

end Service

/-! ## One attempt -/

section Attempt

variable {v : Service} {s : State} {q : Request} {r : Rule} {limit : Nat} {n : Int} {x : Issued}

/-- Where the number is not compared, its turn is the last; else there is a turn to compare it. -/
theorem outcome_fresh (printed : number r q n = .ok x) (new : v.passesOver s x.number = false)
    (k fuel : Nat) : v.outcome (fuel + 2) (.allocated q r n k) s = (.ok x, s) := by
  rw [Service.outcome_turn rfl]
  cases guarded : v.guarded with
  | false => simp only [Service.turn, printed, guarded, Bool.false_eq_true, ↓reduceIte,
      Service.outcome_finished]
  | true =>
    have unknown : v.engine.hasNumber x.number s = false := by
      simpa [Service.passesOver, guarded] using new
    simp only [Service.turn, printed, guarded, ↓reduceIte]
    rw [Service.outcome_turn rfl]
    simp only [Service.turn, unknown, Bool.false_eq_true, ↓reduceIte, Service.outcome_finished]

theorem outcome_known (printed : number r q n = .ok x) (known : v.passesOver s x.number = true)
    (k fuel : Nat) : v.outcome (fuel + 2) (.allocated q r n k) s =
      v.outcome fuel (if k < v.attempts then .attempt q r (k + 1)
        else .refused (.duplicate v.attempts r.id)) s := by
  obtain ⟨guarded, found⟩ : v.guarded = true ∧ v.engine.hasNumber x.number s = true := by
    simpa [Service.passesOver] using known
  rw [Service.outcome_turn rfl]
  simp only [Service.turn, printed, guarded, ↓reduceIte]
  rw [Service.outcome_turn rfl]
  simp only [Service.turn, found, ↓reduceIte]
  split <;> rfl

/-- What the attempt `k` comes to: the call after it, and the state. -/
inductive Attempted (v : Service) (q : Request) (r : Rule) (limit k : Nat) (s : State) :
    Call → State → Prop
  | exhausted (used : limit < nextOf r q s) :
      Attempted v q r limit k s (.refused (.exhausted (scopeOf r q) limit)) s
  | fresh {x : Issued} (le : nextOf r q s ≤ limit) (printed : number r q (nextOf r q s) = .ok x)
      (new : v.passesOver s x.number = false) :
      Attempted v q r limit k s (.finished (.ok x)) (s.putCounter (scopeOf r q) (nextOf r q s))
  | known {x : Issued} (le : nextOf r q s ≤ limit) (printed : number r q (nextOf r q s) = .ok x)
      (known : v.passesOver s x.number = true) :
      Attempted v q r limit k s
        (if k < v.attempts then .attempt q r (k + 1) else .refused (.duplicate v.attempts r.id))
        (s.putCounter (scopeOf r q) (nextOf r q s))

/-- What a call works with: a rule of the store that can hand out numbers. -/
structure Service.Works (v : Service) (s : State) (r : Rule) : Prop where
  serving : v.Serving
  stored : r ∈ s.rules
  usable : r.Usable
  takes : v.engine.Takes r.id

/-- An attempt is over after three turns. -/
theorem attempt_attempted (works : v.Works s r) (hl : r.limit = .ok limit) (q : Request)
    (k : Nat) : ∃ c t, Attempted v q r limit k s c t ∧
      ∀ fuel, v.outcome (fuel + 3) (.attempt q r k) s = v.outcome fuel c t := by
  have begin : Call.attempt q r k = .allocating q r limit k := by rw [Call.attempt, hl]
  have answer : ((v.next (scopeOf r q) limit s).result, (v.next (scopeOf r q) limit s).state) =
      if limit < nextOf r q s then (.error (.refused (.exhausted (scopeOf r q) limit)), s)
      else (.ok (nextOf r q s), s.putCounter (scopeOf r q) (nextOf r q s)) :=
    next_eq_memory works.serving works.stored works.usable works.takes hl q
  by_cases used : (limit : Int) < nextOf r q s
  · rw [if_pos used, Prod.mk.injEq] at answer
    refine ⟨_, _, .exhausted used, fun fuel => ?_⟩
    rw [begin, Service.outcome_turn rfl]
    simp only [Service.turn, answer, Call.refused, Service.outcome_finished]
  · rw [if_neg used, Prod.mk.injEq] at answer
    have le : nextOf r q s ≤ limit := by omega
    obtain ⟨x, printed⟩ := number_usable works.usable q (nextOf r q s)
    have taken (fuel : Nat) : v.outcome (fuel + 3) (.attempt q r k) s =
        v.outcome (fuel + 2) (.allocated q r (nextOf r q s) k)
          (s.putCounter (scopeOf r q) (nextOf r q s)) := by
      rw [begin, Service.outcome_turn rfl]
      simp only [Service.turn, answer]
    have compared : v.passesOver (s.putCounter (scopeOf r q) (nextOf r q s)) x.number =
        v.passesOver s x.number :=
      congrFun (Service.passesOver_congr rfl) x.number
    cases known : v.passesOver s x.number with
    | false =>
      refine ⟨_, _, .fresh le printed known, fun fuel => ?_⟩
      rw [taken, outcome_fresh printed (compared.trans known), Service.outcome_finished]
    | true =>
      refine ⟨_, _, .known le printed known, fun fuel => ?_⟩
      rw [taken, outcome_known printed (compared.trans known)]

end Attempt

/-! ## All attempts -/

section Attempts

variable {v : Service} {known : String → Bool} {s t : State} {q q' : Request} {r : Rule}
  {limit j : Nat} {x : Issued}

/-- After `j` attempts: their values were within the limit, and their numbers known. -/
structure Passed (known : String → Bool) (r : Rule) (q : Request) (s : State) (limit j : Nat)
    (t : State) : Prop where
  moved : OnlyMoved s (scopeOf r q) (valueAfter r q s j) t
  within : 0 < j → valueAfter r q s j ≤ limit
  stale : ∀ k : Nat, 1 ≤ k → k ≤ j → ¬FreshAt known r q (valueAfter r q s k)

theorem Passed.start (known : String → Bool) (r : Rule) (q : Request) (s : State) (limit : Nat) :
    Passed known r q s limit 0 s where
  moved := ⟨by simp [valueAfter], .refl _ s⟩
  within := by simp
  stale k pos le := by omega

theorem Passed.nextOf_eq (h : Passed known r q s limit j t) :
    nextOf r q t = valueAfter r q s (j + 1) := by
  rw [nextOf, h.moved.counter, valueAfter, valueAfter]
  omega

theorem Passed.next (h : Passed known r q s limit j t) (le : nextOf r q t ≤ limit)
    (printed : number r q (nextOf r q t) = .ok x) (found : known x.number = true) :
    Passed known r q s limit (j + 1) (t.putCounter (scopeOf r q) (nextOf r q t)) := by
  rw [h.nextOf_eq] at le printed ⊢
  refine ⟨h.moved.put _, fun _ => le, ?_⟩
  intro k pos upper
  by_cases last : k = j + 1
  · subst last
    rintro ⟨y, printed', new⟩
    obtain rfl : x = y := Except.ok.inj (printed.symm.trans printed')
    rw [found] at new
    cases new
  · exact h.stale k pos (by omega)

/-- The scope is used up before the attempts are. -/
theorem Passed.exhausted (h : Passed known r q s limit j t) (used : limit < nextOf r q t)
    {A : Nat} (more : j < A) :
    Tried A known r q s limit (.error (.refused (.exhausted (scopeOf r q) limit))) t := by
  have within := h.within
  rw [h.nextOf_eq] at used
  rw [valueAfter] at used within
  have reach : withinReach A r q s limit = j := by
    rw [withinReach]
    omega
  exact .exhausted (by omega) (reach ▸ h.stale) (reach ▸ h.moved)

/-- The attempts are used up. -/
theorem Passed.duplicate (h : Passed known r q s limit j t) (pos : 0 < j) :
    Tried j known r q s limit (.error (.refused (.duplicate j r.id))) t := by
  have within := h.within pos
  rw [valueAfter] at within
  have reach : withinReach j r q s limit = j := by
    rw [withinReach]
    omega
  exact .duplicate (by omega) (reach.symm ▸ h.stale) (reach.symm ▸ h.moved)

theorem Passed.fresh (h : Passed known r q s limit j t) (le : nextOf r q t ≤ limit)
    (printed : number r q (nextOf r q t) = .ok x) (new : known x.number = false) {A : Nat}
    (more : j < A) :
    Tried A known r q s limit (.ok x) (t.putCounter (scopeOf r q) (nextOf r q t)) := by
  rw [h.nextOf_eq] at le printed ⊢
  have reach : j + 1 ≤ withinReach A r q s limit := by
    rw [valueAfter] at le
    rw [withinReach]
    omega
  have value : x.sequence = valueAfter r q s (j + 1) := (number_parts printed).2.1
  refine .fresh (k := j + 1) ⟨⟨by omega, reach, x, printed, new⟩, ?_⟩ printed value (h.moved.put _)
  rintro k ⟨pos, -, freshAt⟩
  by_contra before
  exact h.stale k pos (by omega) freshAt

theorem Service.Works.moved (works : v.Works s r) {scope : Scope} {n : Int}
    (h : OnlyMoved s scope n t) : v.Works t r :=
  { works with stored := h.rest.rules ▸ works.stored }

/-- Whatever was passed so far, `m` more attempts after the next bring the call to its end. -/
theorem attempts_tried (works : v.Works s r) (hl : r.limit = .ok limit) (m : Nat)
    (passed : Passed (v.passesOver s) r q s limit j t) (rest : j + m + 1 = v.tries) :
    Tried v.tries (v.passesOver s) r q s limit
      (v.outcome (3 * m + 4) (.attempt q r (j + 1)) t).1
      (v.outcome (3 * m + 4) (.attempt q r (j + 1)) t).2 := by
  induction m using Nat.strong_induction_on generalizing j t with
  | h m ih =>
    have more : j < v.tries := by omega
    obtain ⟨c, u, attempted, ends⟩ :=
      attempt_attempted (works.moved passed.moved) hl q (j + 1)
    have compared := Service.passesOver_congr (v := v) passed.moved.rest.known
    rw [show 3 * m + 4 = 3 * m + 1 + 3 from rfl, ends]
    cases attempted with
    | exhausted used =>
      rw [Call.refused, Service.outcome_finished]
      exact passed.exhausted used more
    | fresh le printed new =>
      rw [Service.outcome_finished]
      exact passed.fresh le printed (compared ▸ new) more
    | known le printed known =>
      have next := passed.next le printed (compared ▸ known)
      have tries : v.tries = v.attempts := by
        have guarded : v.guarded = true := (Bool.and_eq_true_iff.mp known).1
        rw [Service.tries, if_pos guarded]
      by_cases again : j + 1 < v.attempts
      · obtain ⟨m, rfl⟩ : ∃ m', m = m' + 1 := ⟨m - 1, by omega⟩
        rw [if_pos again]
        exact ih m (by omega) next (by omega)
      · obtain rfl : m = 0 := by omega
        rw [if_neg again, Call.refused, Service.outcome_finished, ← tries, ← rest]
        exact next.duplicate (by omega)

end Attempts

/-- How a call ends that runs alone over a store that serves, and is led to a rule that can hand out
numbers; a table holds rules only under numbers that it takes. If numbers are compared the call
makes the attempts it is allowed and passes over the known ones; if not, it makes one attempt, and
no number counts as known. -/
theorem generate_tried {v : Service} (serving : v.Serving) {s : State} {q q' : Request} {r : Rule}
    (resolves : v.Resolves (fun _ => false) s q q' r) (usable : r.Usable)
    (takes : v.engine.Takes r.id) :
    ∃ limit, r.limit = .ok limit ∧
      (v.guarded = true → 1 ≤ v.attempts →
        Tried v.attempts (fun number => v.engine.hasNumber number s) r q' s limit
          (v.generate (fun _ => false) q s).result (v.generate (fun _ => false) q s).state) ∧
      (v.guarded = false →
        Tried 1 (fun _ => false) r q' s limit
          (v.generate (fun _ => false) q s).result (v.generate (fun _ => false) q s).state) := by
  have works : v.Works s r := ⟨serving, (resolve_found resolves.found).1, usable, takes⟩
  obtain ⟨limit, hl⟩ := usable.limit
  have tried (pos : 1 ≤ v.tries) : Tried v.tries (v.passesOver s) r q' s limit
      (v.generate (fun _ => false) q s).result (v.generate (fun _ => false) q s).state := by
    obtain ⟨result, state⟩ := resolves.generate
    rw [result, state]
    obtain ⟨m, hm⟩ : ∃ m, v.tries = m + 1 := ⟨v.tries - 1, by omega⟩
    have all := attempts_tried works hl m (.start (v.passesOver s) r q' s limit) (by omega)
    rwa [show 3 * m + 4 = 3 * v.tries + 1 by omega] at all
  refine ⟨limit, hl, ?_, ?_⟩
  · intro guarded pos
    have tries : v.tries = v.attempts := if_pos guarded
    have compared : v.passesOver s = fun number => v.engine.hasNumber number s := by
      funext number
      rw [Service.passesOver, guarded, Bool.true_and]
    rw [tries, compared] at tried
    exact tried pos
  · intro unguarded
    have tries : v.tries = 1 := if_neg (by simp [unguarded])
    have compared : v.passesOver s = fun _ => false := by
      funext number
      rw [Service.passesOver, unguarded, Bool.false_and]
    rw [tries, compared] at tried
    exact tried (Nat.le_refl 1)

/-- Numbers are compared, three attempts a call. -/
def checked : Service :=
  { plain with guarded := true, attempts := 3 }

/-- The first two numbers of March are known: the third is the least one that is not. Without the
comparison the first is handed out. -/
theorem generate_tried_invoices :
    let s := (Engine.memory.create invoices (.fresh ["T-202503-001", "T-202503-002"])).state
    let r := Rule.ofDraft 1 invoices
    let out := checked.generate (fun _ => false) order s
    let free := plain.generate (fun _ => false) order s
    (Tried 3 s.known.contains r order s 999 out.result out.state ∧
      out.result = .ok ⟨"T-202503-003", 1, 3, invoices.template⟩) ∧
    Tried 1 (fun _ => false) r order s 999 free.result free.state ∧
      free.result = .ok ⟨"T-202503-001", 1, 1, invoices.template⟩ := by
  intro s r out free
  have usable : r.Usable := Draft.usable_of_accept (d := invoices) (by decide +kernel) 1
  have limit : r.limit = .ok 999 := by decide +kernel
  have resolves : checked.Resolves (fun _ => false) s order order r :=
    ⟨by decide +kernel, by decide +kernel, rfl⟩
  have resolves' : plain.Resolves (fun _ => false) s order order r :=
    ⟨by decide +kernel, by decide +kernel, rfl⟩
  obtain ⟨n, hn, tried, -⟩ := generate_tried ⟨by decide, by decide⟩ resolves usable
    (Engine.takes_memory 1)
  obtain ⟨n', hn', -, untried⟩ := generate_tried ⟨by decide, by decide⟩ resolves' usable
    (Engine.takes_memory 1)
  obtain rfl : 999 = n := Except.ok.inj (limit.symm.trans hn)
  obtain rfl : 999 = n' := Except.ok.inj (limit.symm.trans hn')
  exact ⟨⟨tried rfl (by decide), by decide +kernel⟩, untried rfl, by decide +kernel⟩

end DocNumber.Issuing
