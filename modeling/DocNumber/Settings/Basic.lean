import DocNumber.Decimal.Numeral
import DocNumber.Fields.Read
import DocNumber.Settings.Dotenv
import DocNumber.Text.Path

/-!
Settings, read from variables. A variable of the environment goes before one of the outer
environment file, and that before one of the inner file. Names match in any case of letters.
-/

namespace DocNumber

structure Settings where
  databaseUrl : String
  corsOrigins : Option String
  /-- Issued numbers are compared with the known ones. -/
  guarded : Bool
  attempts : Nat
  deadline : Option Decimal.Binary64
  seedFile : Option String
deriving DecidableEq

namespace Settings

/-- The origins between commas. -/
def origins (s : Settings) : List String :=
  match s.corsOrigins with
  | none => []
  | some list =>
    let parts := (list.toList.splitOn ',').map (Text.stripBy Text.isBlank)
    (parts.filter fun p => !p.isEmpty).map String.ofList

def lowerName (s : String) : String :=
  String.ofList (Decimal.lowerAscii s.toList)

/-- The last binding of a name counts. -/
def lookup (bindings : List Binding) (name : String) : Option String :=
  (bindings.reverse.find? fun b => lowerName b.1 == lowerName name).bind fun b => b.2

/-- Where variables come from: the process, the file next to it, the file one level up. -/
structure Sources where
  environment : List (String × String)
  inner : String
  outer : String

def Sources.value? (s : Sources) (name : String) : Option String :=
  match lookup (s.environment.map fun b => (b.1, some b.2)) name with
  | some v => some v
  | none => lookup (readDotenv s.inner ++ readDotenv s.outer) name

def readFlag (s : String) : Except Fields.Problem Bool :=
  let word := lowerName s
  if ["1", "on", "t", "true", "y", "yes"].contains word then .ok true
  else if ["0", "off", "f", "false", "n", "no"].contains word then .ok false
  else .error .unreadableBool

def readAttempts (s : String) : Except Fields.Problem Nat :=
  match Fields.readIntText s with
  | .error p => .error p
  | .ok n => if 1 ≤ n then .ok n.toNat else .error .belowLeast

def readDeadline (s : String) : Except Fields.Problem Decimal.Binary64 :=
  match Decimal.read? s.toList with
  | none => .error .unreadableReal
  | some x => if x.isPositive then .ok x else .error .notAbove

open Fields

/-- A variable with a default; its issues carry its name. -/
def field {α : Type} (src : Sources) (name : String) (default : α)
    (read : String → Except Problem α) : Checked α :=
  match src.value? name with
  | none => .ok default
  | some v => (read v).mapError fun p => [⟨p, [.name name]⟩]

/-- A blank value stands for none. -/
def blankAsNone {α : Type} (read : String → Except Problem α) (v : String) :
    Except Problem (Option α) :=
  if Text.allBlank v then .ok none else (read v).map some

def ofFields (databaseUrl : String) (corsOrigins : Option String) (guarded : Bool) (attempts : Nat)
    (deadline : Option Decimal.Binary64) (seedFile : Option String) : Settings :=
  { databaseUrl, corsOrigins, guarded, attempts, deadline, seedFile }

def read (src : Sources) : Checked Settings :=
  let url : Checked String :=
    match src.value? "DATABASE_URL" with
    | some v => .ok v
    | none => .error [⟨.missing, [.name "DATABASE_URL"]⟩]
  let s := url.map ofFields
  let s := Checked.ap s (field src "CORS_ORIGINS" none (blankAsNone .ok))
  let s := Checked.ap s (field src "NUMBERING_DUPLICATE_CHECK" false readFlag)
  let s := Checked.ap s (field src "NUMBERING_DUPLICATE_MAX_ATTEMPTS" 10 readAttempts)
  let s := Checked.ap s
    (field src "NUMBERING_GENERATION_TIMEOUT_SECONDS" none (blankAsNone readDeadline))
  Checked.ap s
    (field src "NUMBERING_SEED_FILE" none (blankAsNone fun v => .ok (Text.plainPath v)))

end Settings

end DocNumber
