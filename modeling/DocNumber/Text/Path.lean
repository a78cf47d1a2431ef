/-!
Paths in plain form: empty and single-dot segments, doubled slashes and slashes at the end are
left out; segments that lead upwards stay.
-/

namespace DocNumber.Text

/-- A path that starts with exactly two slashes keeps them. -/
def pathRoot (cs : List Char) : List Char :=
  match cs with
  | '/' :: '/' :: '/' :: _ => ['/']
  | '/' :: '/' :: _ => ['/', '/']
  | '/' :: _ => ['/']
  | _ => []

def pathSegments (cs : List Char) : List (List Char) :=
  (cs.splitOn '/').filter fun s => !s.isEmpty && s != ['.']

def joinSegments : List (List Char) → List Char
  | [] => []
  | [s] => s
  | s :: rest => s ++ '/' :: joinSegments rest

/-- The empty path is the directory itself. -/
def plainPath (path : String) : String :=
  let cs := path.toList
  let plain := pathRoot cs ++ joinSegments (pathSegments cs)
  String.ofList (if plain.isEmpty then ['.'] else plain)

end DocNumber.Text
