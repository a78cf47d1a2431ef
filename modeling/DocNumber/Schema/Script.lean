import DocNumber.Schema.Revision
import DocNumber.Schema.Tables

/-!
The script that moves the tables from one revision to another, for a database that is not at hand.
-/

namespace DocNumber.Schema

/-- A script runs in a transaction where the database allows that for definitions. -/
def inTransaction (d : Dialect) (body : List String) : List String :=
  match d with
  | .postgresql => "BEGIN;" :: body ++ ["COMMIT;"]
  | .sqlite => body

/-- The column that an insertion gives back. -/
def given (d : Dialect) : String :=
  match d with
  | .postgresql => "alembic_version.version_num"
  | .sqlite => "version_num"

def upLines (d : Dialect) : List String :=
  ["-- Running upgrade  -> " ++ headName] ++ rules.create d ++
    [windowIndex.create, departmentIndex.create] ++ counters.create d ++
    ["INSERT INTO alembic_version (version_num) VALUES ('" ++ headName ++ "') RETURNING " ++
      given d ++ ";"]

def downLines : List String :=
  ["-- Running downgrade " ++ headName ++ " ->", counters.drop, departmentIndex.drop,
    windowIndex.drop, rules.drop,
    "DELETE FROM alembic_version WHERE alembic_version.version_num = '" ++ headName ++ "';"]

/-- From nothing on, the table of versions is made first. -/
def upScript (d : Dialect) (start goal : Level) : List String :=
  let first := if start = .base then versions.create d else []
  let move := if start = .base ∧ goal = .head then upLines d else []
  inTransaction d (first ++ move)

def downScript (d : Dialect) (start goal : Level) : List String :=
  inTransaction d (if start = .head ∧ goal = .base then downLines else [])

/-- The part before a database name that says which kind of database it is. -/
def Dialect.ofUrl? (url : String) : Option Dialect :=
  let scheme := url.toList.takeWhile fun c => c != ':' && c != '+'
  if scheme == "postgresql".toList then some .postgresql
  else if scheme == "sqlite".toList then some .sqlite
  else none

/-- A range is two revisions with a colon between; without one it starts at the base. -/
def splitRange (s : String) : Option String × String :=
  let cs := s.toList
  match cs.dropWhile (· != ':') with
  | [] => (none, s)
  | _ :: rest => (some (String.ofList (cs.takeWhile (· != ':'))), String.ofList rest)

def script? (d : Dialect) (upwards : Bool) (revision : String) : Option (List String) := do
  let (start, goal) := splitRange revision
  if upwards then
    let start ← Level.ofName? (start.getD "base")
    let goal ← (← Target.ofText? goal).above? start
    return upScript d start goal
  else
    let start ← Level.ofName? (← start)
    let goal ← (← Target.ofText? goal).below? start
    return downScript d start goal

end DocNumber.Schema
