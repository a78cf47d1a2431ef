import DocNumber.Http.Body
import DocNumber.Http.Cors
import DocNumber.Http.Health
import DocNumber.Http.Route
import DocNumber.Issuing.Deadline
import DocNumber.Rule.Fields
import DocNumber.Settings.Basic

/-!
The service: endpoints over one store. Fields are read first, then rules and requests are checked,
and only then is storage touched.
-/

namespace DocNumber.Http

open Store Issuing

structure World where
  database : Schema.Database
  state : State

/-- An answer, the world after it, and the notes. -/
structure Served where
  answer : Answer
  world : World
  notes : List Note

structure App where
  settings : Settings
  service : Service
  /-- The newest revision, where the service can tell. -/
  newest : Option String
  platform : Platform
  /-- What becomes of a torn body. Texts here are made of whole characters, so that the endpoints
  cannot follow it. -/
  torn : Endpoint → Incoming → World → Served

namespace App

/-- A table is down while its database is not ready; a store in memory needs none. -/
def serviceIn (a : App) (w : World) : Service :=
  match a.service.engine with
  | .table _ => if w.database.ready then a.service else { a.service with engine := .down }
  | _ => a.service

def kept (w : World) (answer : Answer) : Served :=
  ⟨answer, w, []⟩

/-- When a row was made and changed is shown without the time. -/
def ruleJson (r : Rule) : Json :=
  .object (r.members ++ [("created_at", .text "<time>"), ("updated_at", .text "<time>")])

def issuedJson (i : Issued) : Json :=
  .object
    [("document_number", .text i.number), ("rule_id", .int i.rule),
      ("sequence_number", .int i.sequence), ("template_used", .text i.template)]

def served {α : Type} (w : World) (status : Nat) (encode : α → Json) (o : Outcome α) : Served :=
  let answer :=
    match o.result with
    | .ok a => .response (.json status (encode a))
    | .error f => .ofFailure f
  ⟨answer, { w with state := o.state }, o.notes⟩

def unparsed : Response :=
  .detail 400 (.text "There was an error parsing the body")

/-- Reads the body for the endpoint `p` and goes on with what it says. -/
def posted {α : Type} (a : App) (p : Endpoint) (read : Json.Members → Fields.Checked α)
    (go : α → Served) (q : Incoming) (w : World) : Served :=
  match a.platform.readBodyAs q read with
  | .ok x => go x
  | .error (.issues found) => kept w (.response (.unprocessable found))
  | .error .undecodable => kept w (.response unparsed)
  | .error .unwritten => kept w (.escaped .unwritten)
  | .error .torn => a.torn p q w

def createRule (a : App) (q : Incoming) (w : World) : Served :=
  a.posted .createRule Draft.ofMembers
    (fun d => served w 201 ruleJson ((a.serviceIn w).engine.create d w.state)) q w

open Fields in
def limitField (v : Json) : Checked Int :=
  match readInt v with
  | .error found => .error found
  | .ok n =>
    if n < 1 then .fault .belowLeast else if 500 < n then .fault .aboveGreatest else .ok n

open Fields in
def offsetField (v : Json) : Checked Int :=
  match readInt v with
  | .error found => .error found
  | .ok n => if n < 0 then .fault .belowLeast else .ok n

structure Search where
  filters : Filters
  limit : Int
  offset : Int

def Search.ofFields (department documentType : Option String) (activeOn : Option Calendar.Day)
    (limit offset : Int) : Search :=
  ⟨⟨department, documentType, activeOn⟩, limit, offset⟩

open Fields in
def readSearch (ms : Json.Members) : Checked Search :=
  let text (v : Json) := (readText v).map some
  let day (v : Json) := (readDay v).map some
  let s := (optional ms "department_code" none text).map Search.ofFields
  let s := Checked.ap s (optional ms "document_type_code" none text)
  let s := Checked.ap s (optional ms "active_on" none day)
  let s := Checked.ap s (optional ms "limit" 50 limitField)
  let s := Checked.ap s (optional ms "offset" 0 offsetField)
  Checked.under (.name "query") s

def pageJson (p : Page) : Json :=
  .object [("items", .list (p.rows.map ruleJson)), ("total", .int p.total)]

def searchRules (a : App) (q : Incoming) (w : World) : Answer :=
  match readSearch (queryMembers q.query) with
  | .error found => .response (.unprocessable found)
  | .ok s =>
    match (a.serviceIn w).engine.search s.filters s.limit s.offset w.state with
    | .error f => .ofFailure f
    | .ok p => .response (.json 200 (pageJson p))

def getRule (a : App) (id : String) (w : World) : Answer :=
  match Fields.readInt (.text id) with
  | .error found =>
    let inPath (i : Fields.Issue) := (i.under (.name "rule_id")).under (.name "path")
    .response (.unprocessable (found.map inPath))
  | .ok id =>
    match (a.serviceIn w).engine.get id w.state with
    | .error f => .ofFailure f
    | .ok none => .response (.detail 404 (.text "Not found"))
    | .ok (some r) => .response (.json 200 (ruleJson r))

def issueNumber (a : App) (q : Incoming) (w : World) : Served :=
  let v := a.serviceIn w
  let issue (r : Request) : Served :=
    served w 201 issuedJson (v.generate (v.cuts a.settings.deadline) r w.state)
  a.posted .issueNumber Request.ofMembers issue q w

def run (a : App) (e : Endpoint) (q : Incoming) (w : World) : Served :=
  match e with
  | .health => kept w (.response Http.health)
  | .deepHealth => kept w (.response (Http.deepHealth w.database a.newest))
  | .createRule => a.createRule q w
  | .searchRules => kept w (a.searchRules q w)
  | .getRule id => kept w (a.getRule id w)
  | .issueNumber => a.issueNumber q w

def dispatch (a : App) (q : Incoming) (w : World) : Served :=
  match wayTo q.method q.path with
  | .found e => a.run e q w
  | .otherMethod allowed => kept w (.response (.otherMethod allowed))
  | .elsewhere path => kept w (.response (redirect q path))
  | .nowhere => kept w (.response .notFound)

def handle (a : App) (q : Incoming) (w : World) : Served :=
  let cors : Cors := ⟨a.settings.origins⟩
  match cors.preflight? q with
  | some r => kept w (.response r)
  | none =>
    let out := a.dispatch q w
    { out with answer := cors.wrap q out.answer }

/-- A service that compares numbers but has nothing to compare them with says so when it starts. -/
def startNotes (a : App) (lookup : Bool) : List Note :=
  if a.settings.guarded && !lookup then [.noLookup] else []

/-- Dropping the tables drops what they hold; a store in memory keeps its rules. -/
def move (a : App) (upwards : Bool) (revision : String) (w : World) :
    Except Schema.Database.MoveFault Unit × World :=
  let (result, d) := w.database.move upwards revision
  let dropped := w.database.tables && !d.tables && a.service.engine != .memory
  let state := if dropped then State.fresh w.state.known else w.state
  (result, ⟨d, state⟩)

end App

end DocNumber.Http
