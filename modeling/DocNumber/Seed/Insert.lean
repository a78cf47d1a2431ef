import DocNumber.Store.Engine

/-!
Inserting seeded rules, in order, up to the first that is refused.
-/

namespace DocNumber.Seed

open Store

/-- The rules inserted before a failure stay. -/
def insertFrom (e : Engine) (count : Nat) : List Draft → State → Outcome Nat
  | [], s => ⟨.ok count, s, [.seeded count]⟩
  | d :: ds, s =>
    let out := e.create d s
    match out.result with
    | .error f => ⟨.error f, out.state, out.notes⟩
    | .ok _ =>
      let rest := insertFrom e (count + 1) ds out.state
      { rest with notes := out.notes ++ rest.notes }

def insert (e : Engine) (drafts : List Draft) (s : State) : Outcome Nat :=
  insertFrom e 0 drafts s

/-- Counts the rules and inserts none. -/
def dryRun (drafts : List Draft) (s : State) : Outcome Nat :=
  ⟨.ok drafts.length, s, [.wouldInsert drafts.length]⟩

end DocNumber.Seed
