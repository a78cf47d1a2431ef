import DocNumber.Http.Message
import DocNumber.Schema.Database

/-!
Health reports. The deep one looks at the database and compares its revision with the newest one.
-/

namespace DocNumber.Http

inductive MigrationState
  | missingVersion
  | unknownHead
  | upToDate
  | behindHead
deriving DecidableEq, Repr

def MigrationState.name : MigrationState → String
  | .missingVersion => "missing_alembic_version"
  | .unknownHead => "unknown_repo_head"
  | .upToDate => "up_to_date"
  | .behindHead => "behind_head"

def migrationState (current head : Option String) : MigrationState :=
  match current, head with
  | none, _ => .missingVersion
  | some _, none => .unknownHead
  | some c, some h => if c == h then .upToDate else .behindHead

def optionJson (s : Option String) : Json :=
  match s with
  | none => .null
  | some s => .text s

def health : Response :=
  .json 200 (.object [("status", .text "ok")])

def unreachable : Response :=
  .json 503
    (.object
      [("status", .text "error"), ("checks", .object [("database", .text "error")]),
        ("error", .text
          "OperationalError: (sqlite3.OperationalError) unable to open database file")])

def deepHealth (d : Schema.Database) (head : Option String) : Response :=
  if !d.reachable then unreachable
  else
    let state := migrationState d.current head
    let healthy := state = .upToDate
    let migration : Json :=
      .object
        [("state", .text state.name), ("current_revision", optionJson d.current),
          ("repo_head_revision", optionJson head)]
    .json (if healthy then 200 else 503)
      (.object
        [("status", .text (if healthy then "ok" else "degraded")),
          ("checks", .object [("database", .text "ok"), ("migration", migration)])])

end DocNumber.Http
