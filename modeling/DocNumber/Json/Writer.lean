import DocNumber.Json.Value
import DocNumber.Decimal.Shortest

/-!
Writing values as JSON text. Texts are written in full Unicode; only the quote, the backslash and
control characters are escaped.
-/

namespace DocNumber.Json

def escapeChar (c : Char) : List Char :=
  if c == '"' then ['\\', '"']
  else if c == '\\' then ['\\', '\\']
  else if c == '\n' then ['\\', 'n']
  else if c == '\r' then ['\\', 'r']
  else if c == '\t' then ['\\', 't']
  else if c.toNat < 32 then '\\' :: 'u' :: Text.hex 4 c.toNat
  else [c]

def writeText (s : String) : String :=
  String.ofList ('"' :: s.toList.flatMap escapeChar ++ ['"'])

def writeReal (x : Decimal.Binary64) : String :=
  match x with
  | .nan => "NaN"
  | .infinite true => "-Infinity"
  | .infinite false => "Infinity"
  | x => String.ofList x.text

mutual

def write : Json → String
  | .null => "null"
  | .bool true => "true"
  | .bool false => "false"
  | .int n => String.ofList (Text.integer n)
  | .real x => writeReal x
  | .text s => writeText s
  | .list items => "[" ++ ", ".intercalate (writeItems items) ++ "]"
  | .object ms => "\x7b" ++ ", ".intercalate (writeMembers ms) ++ "\x7d"

def writeItems : List Json → List String
  | [] => []
  | v :: vs => write v :: writeItems vs

def writeMembers : List (String × Json) → List String
  | [] => []
  | (k, v) :: ms => (writeText k ++ ": " ++ write v) :: writeMembers ms

end

end DocNumber.Json
