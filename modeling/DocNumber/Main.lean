import DocNumber.Json.Writer
import DocNumber.Seed.Command

/-!
The seeding command as a program. Its table lives as long as it runs.
-/

namespace DocNumber.Seed

def faultOf : IO.Error → FileFault
  | .noFileOrDirectory _ _ _ => .missing
  | .permissionDenied _ _ _ => .denied
  | .inappropriateType _ code _ => if code == 21 then .isFolder else .notFolder
  | .otherError code words => .other code.toNat words
  | e => .other 5 (toString e)

def readBytes (path : String) : IO (Except FileFault (List Nat)) := do
  if path.toList.contains '\x00' then return .error .zeroCharacter
  try
    let bytes ← IO.FS.readBinFile path
    return .ok (bytes.toList.map UInt8.toNat)
  catch e => return .error (faultOf e)

def print (e : Ending) : IO UInt32 := do
  IO.print e.out
  IO.eprint e.err
  for i in e.issues do
    IO.eprint ("\n" ++ Json.write i.toJson)
  if !e.issues.isEmpty then IO.eprint "\n"
  return e.status.toUInt32

def start (args : List String) : IO UInt32 := do
  match plan args (← IO.getEnv "NUMBERING_SEED_FILE") with
  | .error ending => print ending
  | .ok p =>
    let content ← readBytes p.path
    let url ← IO.getEnv "DATABASE_URL"
    match (carryOut .usual p content (.table false) url Store.State.empty).1 with
    | .ok ending => print ending
    | .error _ =>
      IO.eprintln "The command met a fault that it does not foresee."
      return 1

end DocNumber.Seed

def main (args : List String) : IO UInt32 :=
  DocNumber.Seed.start args
