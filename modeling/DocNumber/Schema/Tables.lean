/-!
The tables that hold rules and counters, and their definition in the words of a database.
-/

namespace DocNumber.Schema

inductive Dialect
  | postgresql
  | sqlite
deriving DecidableEq, Repr

inductive ColumnType
  | serial
  | int
  | bigInt
  | text (length : Nat)
  | json
  | date
  | instant

/-- A column that is `stamped` takes the current time by default. -/
structure Column where
  name : String
  type : ColumnType
  nullable : Bool
  stamped : Bool

inductive Constraint
  | primaryKey (name : Option String) (columns : List String)
  | check (name condition : String)
  | foreignKey (column table key : String)

structure Table where
  name : String
  columns : List Column
  constraints : List Constraint

structure Index where
  name : String
  table : String
  columns : List String

def required (name : String) (type : ColumnType) : Column :=
  ⟨name, type, false, false⟩

def optional (name : String) (type : ColumnType) : Column :=
  ⟨name, type, true, false⟩

def stamped (name : String) : Column :=
  ⟨name, .instant, false, true⟩

def rules : Table :=
  { name := "numbering_rules"
    columns :=
      [required "id" .serial, required "name" (.text 200), required "template" (.text 200),
        required "sequence_width" .int, optional "department_code" (.text 32),
        required "document_type_codes" .json, required "effective_from" .date,
        optional "effective_until" .date, required "priority" .int, stamped "created_at",
        stamped "updated_at"]
    constraints :=
      [.primaryKey none ["id"],
        .check "ck_numbering_rules_sequence_width" "sequence_width >= 1",
        .check "ck_numbering_rules_effective_period"
          "effective_until IS NULL OR effective_until >= effective_from"] }

def counters : Table :=
  { name := "sequence_counters"
    columns :=
      [required "rule_id" .int, required "year" .int, required "month" .int,
        required "department_code" (.text 32), required "last_value" .bigInt,
        stamped "updated_at"]
    constraints :=
      [.primaryKey (some "pk_sequence_counters") ["rule_id", "year", "month", "department_code"],
        .foreignKey "rule_id" "numbering_rules" "id"] }

def windowIndex : Index :=
  ⟨"ix_numbering_rules_window", rules.name, ["effective_from", "effective_until"]⟩

def departmentIndex : Index :=
  ⟨"ix_numbering_rules_department_code", rules.name, ["department_code"]⟩

/-- The table that remembers which revision the others are at. -/
def versions : Table :=
  { name := "alembic_version"
    columns := [required "version_num" (.text 32)]
    constraints := [.primaryKey (some "alembic_version_pkc") ["version_num"]] }

def ColumnType.words (d : Dialect) : ColumnType → String
  | .serial => match d with
    | .postgresql => "SERIAL"
    | .sqlite => "INTEGER"
  | .int => "INTEGER"
  | .bigInt => "BIGINT"
  | .text n => "VARCHAR(" ++ toString n ++ ")"
  | .json => "JSON"
  | .date => "DATE"
  | .instant => match d with
    | .postgresql => "TIMESTAMP WITH TIME ZONE"
    | .sqlite => "DATETIME"

def now : Dialect → String
  | .postgresql => "now()"
  | .sqlite => "(CURRENT_TIMESTAMP)"

def listed (names : List String) : String :=
  "(" ++ ", ".intercalate names ++ ")"

def Column.words (d : Dialect) (c : Column) : String :=
  c.name ++ " " ++ c.type.words d ++ (if c.stamped then " DEFAULT " ++ now d else "") ++
    (if c.nullable then "" else " NOT NULL")

def Constraint.words : Constraint → String
  | .primaryKey none columns => "PRIMARY KEY " ++ listed columns
  | .primaryKey (some name) columns => "CONSTRAINT " ++ name ++ " PRIMARY KEY " ++ listed columns
  | .check name condition => "CONSTRAINT " ++ name ++ " CHECK (" ++ condition ++ ")"
  | .foreignKey column table key =>
    "FOREIGN KEY(" ++ column ++ ") REFERENCES " ++ table ++ " (" ++ key ++ ")"

/-- Each part on a line of its own, with a comma after all but the last. -/
def partLines : List String → List String
  | [] => []
  | [p] => ["    " ++ p]
  | p :: ps => ("    " ++ p ++ ",") :: partLines ps

def Table.create (d : Dialect) (t : Table) : List String :=
  ["CREATE TABLE " ++ t.name ++ " ("] ++
    partLines (t.columns.map (Column.words d) ++ t.constraints.map Constraint.words) ++ [");"]

def Table.drop (t : Table) : String :=
  "DROP TABLE " ++ t.name ++ ";"

def Index.create (i : Index) : String :=
  "CREATE INDEX " ++ i.name ++ " ON " ++ i.table ++ " " ++ listed i.columns ++ ";"

def Index.drop (i : Index) : String :=
  "DROP INDEX " ++ i.name ++ ";"

end DocNumber.Schema
