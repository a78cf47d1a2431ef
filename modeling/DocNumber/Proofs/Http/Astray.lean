import DocNumber.Http.App
import DocNumber.Proofs.Fields
import DocNumber.Proofs.Issuing.Overflow

/-!
Statuses, and the ways past them. Whatever goes wrong with a request has a status of its own, with
three exceptions: a number that the store cannot take escapes, a body that cannot be decoded gets a
status that no caller is told of, and an answer that would repeat what it cannot write escapes.
-/

namespace DocNumber.Http

open Store Issuing

/-- The statuses of an answer that gives what was asked for, or says why not. -/
def statuses : List Nat :=
  [200, 201, 404, 409, 422, 503, 504]

def Answer.Mapped : Answer → Prop
  | .response r => r.status ∈ statuses
  | .escaped _ => False

/-- What a caller gets to see of an answer: its status, or that there is none. -/
def Answer.outcome : Answer → Except Escape Nat
  | .response r => .ok r.status
  | .escaped e => .error e

/-- The body that an endpoint takes is not read, and why. -/
def Spoilt (m : Platform) (q : Incoming) (u : Unread) : Endpoint → Prop
  | .createRule => m.readBodyAs q Draft.ofMembers = .error u
  | .issueNumber => m.readBodyAs q Request.ofMembers = .error u
  | .health | .deepHealth | .searchRules | .getRule _ => False

/-- A request that brings a number before the store that it cannot take: as the priority of a
sound draft, as the offset of a search by no document type, or as the id of a rule. -/
def Oversize (m : Platform) (e : Engine) (q : Incoming) : Endpoint → Prop
  | .createRule => ∃ d, m.readBodyAs q Draft.ofMembers = .ok d ∧ d.refusal? = none ∧
      ¬e.Takes d.priority
  | .searchRules => ∃ s, App.readSearch (queryMembers q.query) = .ok s ∧
      s.filters.documentType = none ∧ ¬e.Takes s.offset
  | .getRule id => ∃ n, Fields.readInt (.text id) = .ok n ∧ ¬e.Takes n
  | .health | .deepHealth | .issueNumber => False

/-- The ways past the statuses, and what comes of each. -/
inductive Astray (m : Platform) (e : Engine) (q : Incoming) (p : Endpoint) :
    Except Escape Nat → Prop
  | oversize : Oversize m e q p → Astray m e q p (.error (.failure (.storage .overflow)))
  | undecodable : Spoilt m q .undecodable p → Astray m e q p (.ok 400)
  | unwritten : Spoilt m q .unwritten p → Astray m e q p (.error .unwritten)

/-- What becomes of a request: it is answered, or goes astray with nothing changed. -/
inductive Ends (m : Platform) (e : Engine) (q : Incoming) (p : Endpoint) (w : World) :
    Served → Prop
  | answered {out : Served} (straight : ∀ o, ¬Astray m e q p o) (mapped : out.answer.Mapped) :
      Ends m e q p w out
  | astray {out : Served} {o : Except Escape Nat} (way : Astray m e q p o)
      (outcome : out.answer.outcome = o) (still : out.world = w) : Ends m e q p w out

variable {m : Platform} {e : Engine} {q : Incoming} {w : World} {p : Endpoint}

/-! ## Statuses -/

theorem status_mem (r : Refusal) : r.kind.status ∈ statuses := by
  cases r <;> simp [Refusal.kind, Kind.status, Kind.concernsRule, statuses]

theorem ofFailure_mapped {f : Failure} (h : f.Foreseen) : (Answer.ofFailure f).Mapped := by
  cases f with
  | refused r => exact status_mem r
  | negativeWidth w => cases h
  | storage fault =>
    cases fault with
    | overflow => cases h
    | integrity | unavailable => exact (by decide : 503 ∈ statuses)
  | timedOut => exact (by decide : 504 ∈ statuses)

/-- A failure of the store is foreseen unless a number is too large for it. -/
theorem overflow_or_foreseen {f : Failure} (stored : ∃ fault, f = .storage fault) :
    f = .storage .overflow ∨ f.Foreseen := by
  obtain ⟨fault, rfl⟩ := stored
  by_cases overflow : fault = .overflow
  · exact .inl (congrArg Failure.storage overflow)
  · exact .inr (StorageFault.foreseen overflow)

/-- An outcome is answered with the status foreseen for it, or with that of its failure. -/
theorem served_mapped {α : Type} {status : Nat} (listed : status ∈ statuses) (encode : α → Json)
    {o : Outcome α} (h : ∀ f, o.result = .error f → f.Foreseen) :
    (App.served w status encode o).answer.Mapped := by
  unfold App.served
  dsimp only
  split
  · exact listed
  · rename_i f failed
    exact ofFailure_mapped (h f failed)

/-- Responses to other origins get more headers, and nothing else changes. -/
theorem wrap_outcome (cors : Cors) (q : Incoming) (answer : Answer) :
    (cors.wrap q answer).outcome = answer.outcome := by
  unfold Cors.wrap
  split
  · rfl
  · split
    · rfl
    · cases answer <;> rfl

theorem mapped_iff_outcome {answer : Answer} :
    answer.Mapped ↔ ∃ status ∈ statuses, answer.outcome = .ok status := by
  cases answer <;> simp [Answer.Mapped, Answer.outcome]

theorem deepHealth_mapped (d : Schema.Database) (newest : Option String) :
    (Answer.response (deepHealth d newest)).Mapped := by
  unfold deepHealth
  split
  · exact (by decide : 503 ∈ statuses)
  · dsimp only [Answer.Mapped, Response.json]
    split
    · decide
    · decide

/-! ## What is read from a query -/

theorem limitField_ok {j : Json} {n : Int} (h : App.limitField j = .ok n) : 1 ≤ n ∧ n ≤ 500 := by
  unfold App.limitField at h
  split at h
  · cases h
  · split at h
    · cases h
    · split at h
      · cases h
      · obtain rfl := Except.ok.inj h
        omega

theorem readSearch_limit {ms : Json.Members} {s : App.Search} (h : App.readSearch ms = .ok s) :
    1 ≤ s.limit ∧ s.limit ≤ 500 := by
  have all := Fields.under_eq_ok h
  obtain ⟨_, offset, four, -, rfl⟩ := (Fields.Checked.ap_eq_ok_iff _ _ _).mp all
  obtain ⟨_, limit, three, limited, rfl⟩ := (Fields.Checked.ap_eq_ok_iff _ _ _).mp four
  obtain ⟨_, day, two, -, rfl⟩ := (Fields.Checked.ap_eq_ok_iff _ _ _).mp three
  obtain ⟨_, documentType, one, -, rfl⟩ := (Fields.Checked.ap_eq_ok_iff _ _ _).mp two
  obtain ⟨department, -, rfl⟩ := Template.map_eq_ok_iff.mp one
  rcases Fields.optional_eq_ok limited with ⟨-, rfl⟩ | ⟨j, -, hj⟩
  · exact (by decide : (1 : Int) ≤ 50 ∧ (50 : Int) ≤ 500)
  · exact limitField_ok hj

/-! ## Ways astray -/

theorem Spoilt.not_oversize {u : Unread} (h : Spoilt m q u p) : ¬Oversize m e q p := by
  cases p <;> simp_all [Spoilt, Oversize]

theorem Spoilt.unique {u u' : Unread} (h : Spoilt m q u p) (h' : Spoilt m q u' p) : u = u' := by
  cases p with
  | createRule | issueNumber => exact Except.error.inj (h.symm.trans h')
  | health | deepHealth | searchRules | getRule => exact h.elim

/-- A request goes astray in one way only. -/
theorem Astray.unique {o o' : Except Escape Nat} (h : Astray m e q p o) (h' : Astray m e q p o') :
    o = o' := by
  cases h with
  | oversize large =>
    cases h' with
    | oversize => rfl
    | undecodable spoilt | unwritten spoilt => exact absurd large spoilt.not_oversize
  | undecodable spoilt =>
    cases h' with
    | oversize large => exact absurd large spoilt.not_oversize
    | undecodable => rfl
    | unwritten other => cases spoilt.unique other
  | unwritten spoilt =>
    cases h' with
    | oversize large => exact absurd large spoilt.not_oversize
    | undecodable other => cases spoilt.unique other
    | unwritten => rfl

theorem Astray.not_mapped {answer : Answer} (h : Astray m e q p answer.outcome) :
    ¬answer.Mapped := by
  intro mapped
  obtain ⟨status, listed, outcome⟩ := mapped_iff_outcome.mp mapped
  rw [outcome] at h
  cases h with
  | undecodable => exact absurd listed (by decide)

theorem straight_of (within : ¬Oversize m e q p) (unspoilt : ∀ u, ¬Spoilt m q u p)
    (o : Except Escape Nat) : ¬Astray m e q p o := by
  rintro (large | spoilt | spoilt)
  · exact within large
  · exact unspoilt _ spoilt
  · exact unspoilt _ spoilt

theorem Ends.mapped_iff {out : Served} (h : Ends m e q p w out) :
    out.answer.Mapped ↔ ∀ o, ¬Astray m e q p o := by
  cases h with
  | answered straight mapped => exact iff_of_true mapped straight
  | astray way outcome =>
    subst outcome
    exact iff_of_false way.not_mapped fun straight => straight _ way

theorem Ends.of_astray {out : Served} (h : Ends m e q p w out) {o : Except Escape Nat}
    (way : Astray m e q p o) : out.answer.outcome = o ∧ out.world = w := by
  cases h with
  | answered straight => exact absurd way (straight o)
  | astray other outcome still => exact ⟨outcome.trans (other.unique way), still⟩

/-- The store decides about a request whose body, if it has one, was read: its result is answered,
and so is its failure unless a number was too large. -/
theorem Ends.of_result {α : Type} {result : Except Failure α} {out : Served}
    (unspoilt : ∀ u, ¬Spoilt m q u p)
    (large : result = .error (.storage .overflow) ↔ Oversize m e q p)
    (known : ∀ f, result = .error f → f = .storage .overflow ∨ f.Foreseen)
    (failed : ∀ f, result = .error f → out.answer = .ofFailure f)
    (replied : ∀ x, result = .ok x → out.answer.Mapped)
    (still : result = .error (.storage .overflow) → out.world = w) : Ends m e q p w out := by
  cases result with
  | ok x => exact .answered (straight_of (by simp [← large]) unspoilt) (replied x rfl)
  | error f =>
    rcases known f rfl with rfl | foreseen
    · exact .astray (.oversize (large.mp rfl)) (congrArg Answer.outcome (failed _ rfl)) (still rfl)
    · have within : ¬Oversize m e q p := by
        rw [← large]
        rintro ⟨⟩
        cases foreseen
      refine .answered (straight_of within unspoilt) ?_
      rw [failed f rfl]
      exact ofFailure_mapped foreseen

end DocNumber.Http
