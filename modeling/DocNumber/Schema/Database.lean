import DocNumber.Fault.Refusal
import DocNumber.Schema.Revision
import DocNumber.Schema.Tables

/-!
A database as far as its tables go: whether it can be reached, whether the tables are there, and
which revision it says it is at.
-/

namespace DocNumber.Schema

structure Database where
  reachable : Bool
  tables : Bool
  /-- None without a table of versions; the table may be empty. -/
  version : Option (Option String)
deriving DecidableEq, Repr

namespace Database

/-- Rules and counters can be read and written. -/
def ready (d : Database) : Bool :=
  d.reachable && d.tables

/-- The revision that is written down, if one is. -/
def current (d : Database) : Option String :=
  d.version.getD none

inductive MoveFault
  | unknownRevision
  | storage (f : StorageFault)
deriving DecidableEq, Repr

def level? (d : Database) : Option Level :=
  match d.current with
  | none => some .base
  | some v => if v == headName then some .head else none

/-- Moves the tables up or down. The table of versions is made first, and tables that are there
already cannot be made again. -/
def move (d : Database) (upwards : Bool) (revision : String) : Except MoveFault Unit × Database :=
  if !d.reachable then (.error (.storage .unavailable), d)
  else
    let d := { d with version := some d.current }
    let goal : Option (Level × Level) := do
      let now ← d.level?
      let target ← Target.ofText? revision
      let goal ← if upwards then target.above? now else target.below? now
      return (now, goal)
    match goal with
    | none => (.error .unknownRevision, d)
    | some (.base, .head) =>
      if d.tables then (.error (.storage .unavailable), d)
      else (.ok (), { d with tables := true, version := some (some headName) })
    | some (.head, .base) =>
      if d.tables then (.ok (), { d with tables := false, version := some none })
      else (.error (.storage .unavailable), d)
    | some _ => (.ok (), d)

/-- Writes down a revision, or that there is none. -/
def setVersion (d : Database) (v : Option String) : Database :=
  { d with version := some v }

/-- The names of all tables and indexes, in order. -/
def names (d : Database) : List String :=
  (match d.version with
    | some _ => [versions.name]
    | none => []) ++
  (if d.tables then [departmentIndex.name, windowIndex.name, rules.name, counters.name] else [])

end Database

end DocNumber.Schema
