import DocNumber.Seed.Arguments
import DocNumber.Seed.Files
import DocNumber.Seed.Insert
import DocNumber.Seed.Rows

/-!
The seeding command: it reads a seed file and inserts its rules, or counts them. What it prints and
how it ends are values here; reading and printing are done by whoever runs it.
-/

namespace DocNumber.Seed

def usage : String :=
  "usage: seed_numbering_rules.py [-h] [--dry-run] [seed_file]\n"

def helpText : String :=
  usage ++ "\nLoad numbering rules from a JSON seed file.\n\n" ++
    "positional arguments:\n  seed_file\n\n" ++
    "options:\n  -h, --help  show this help message and exit\n" ++
    "  --dry-run   Validate and count rules without inserting.\n"

/-- How the command ends: a status and what it prints. A row that cannot be read leaves its issues
to be listed after the message. -/
structure Ending where
  status : Nat
  out : String
  err : String
  issues : List Fields.Issue

/-- What the command does not foresee. -/
inductive Crash
  | notObject (found : Shape)
  | tooDeep (inObject : Bool)
  | failed (f : Failure)

def Ending.done (out : String) : Ending :=
  ⟨0, out, "", []⟩

def Ending.failed (status : Nat) (err : String) : Ending :=
  ⟨status, "", err, []⟩

/-- What is to be done: read a file, and insert or only count. -/
structure Plan where
  path : String
  dryRun : Bool

/-- The file may also be named by a variable; an empty name is none. -/
def plan (args : List String) (fileVariable : Option String) : Except Ending Plan :=
  match readArguments args fileVariable with
  | .error .help => .error (.done helpText)
  | .error (.fault f) =>
    .error (.failed 2 (usage ++ "seed_numbering_rules.py: error: " ++ f.message ++ "\n"))
  | .ok a =>
    match a.file with
    | none | some "" =>
      .error (.failed 2 "A seed file (argument or NUMBERING_SEED_FILE) is required.\n")
    | some path => .ok ⟨Text.plainPath path, a.dryRun⟩

def unreadable (message : String) : Ending :=
  .failed 1 ("Cannot read seed file: " ++ message ++ "\n")

/-- The rules in a file, or how the command ends without them. -/
def load (depths : Depths) (path : String) (content : Except FileFault (List Nat)) :
    Except Crash (Except Ending (List Draft)) :=
  match content with
  | .error f => .ok (.error (unreadable (f.message path)))
  | .ok bytes =>
    match Text.Utf8.decode bytes with
    | .error m => .ok (.error (unreadable m.message))
    | .ok cs =>
      match readContent depths (String.ofList cs) with
      | .ok drafts => .ok (.ok drafts)
      | .error (.notObject found) => .error (.notObject found)
      | .error (.unread (.tooDeep inObject)) => .error (.tooDeep inObject)
      | .error (.invalidRow rule found) =>
        let message := (Fault.invalidRow rule found).message
        .ok (.error ⟨1, "", "Cannot read seed file: " ++ message, found⟩)
      | .error f => .ok (.error (unreadable f.message))

open Store in
/-- Inserts the rules where a database is named. -/
def insertAll (e : Engine) (databaseUrl : Option String) (drafts : List Draft) (s : State) :
    Except Crash Ending × State :=
  if (databaseUrl.getD "").isEmpty then (.ok (.failed 2 "DATABASE_URL is required.\n"), s)
  else
    let out := insert e drafts s
    match out.result with
    | .ok n => (.ok (.done ("Inserted " ++ toString n ++ " numbering rules\n")), out.state)
    | .error (.refused r) =>
      (.ok (.failed 1 ("Seeding stopped: " ++ r.message ++ "\n")), out.state)
    | .error f => (.error (.failed f), out.state)

open Store in
/-- Carries out a plan once the file has been read. -/
def carryOut (depths : Depths) (p : Plan) (content : Except FileFault (List Nat)) (e : Engine)
    (databaseUrl : Option String) (s : State) : Except Crash Ending × State :=
  match load depths p.path content with
  | .error c => (.error c, s)
  | .ok (.error ending) => (.ok ending, s)
  | .ok (.ok drafts) =>
    if p.dryRun then
      (.ok (.done ("Would insert " ++ toString drafts.length ++ " numbering rules\n")), s)
    else insertAll e databaseUrl drafts s

open Store in
def run (depths : Depths) (args : List String) (named? : String → Option String) (fs : Files)
    (e : Engine) (s : State) : Except Crash Ending × State :=
  match plan args (named? "NUMBERING_SEED_FILE") with
  | .error ending => (.ok ending, s)
  | .ok p => carryOut depths p (fs.read p.path) e (named? "DATABASE_URL") s

end DocNumber.Seed
