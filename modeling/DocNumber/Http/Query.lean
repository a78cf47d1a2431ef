import DocNumber.Json.Value
import DocNumber.Text.Digits
import DocNumber.Text.Utf8

/-!
Query strings: names and values between ampersands, blanks as plus signs, any byte as a percent
sign and two hexadecimal digits. Bytes that are no UTF-8 give replacement characters.
-/

namespace DocNumber.Http

def isAscii (c : Char) : Bool :=
  c.toNat < 128

/-- The bytes that ASCII text with percent signs stands for. A percent sign without two digits
stands for itself. -/
def percentBytes : List Char → List Nat
  | '%' :: a :: b :: rest =>
    match Text.hexValue? a, Text.hexValue? b with
    | some x, some y => (16 * x + y) :: percentBytes rest
    | _, _ => '%'.toNat :: percentBytes (a :: b :: rest)
  | c :: rest => c.toNat :: percentBytes rest
  | [] => []

/-- Decodes each ASCII run by itself and leaves other text as it is. -/
def percentDecode (cs : List Char) : List Char :=
  match cs with
  | [] => []
  | c :: rest =>
    if isAscii c then
      Text.Utf8.decodeLossy (percentBytes (c :: rest.takeWhile isAscii)) ++
        percentDecode (rest.dropWhile isAscii)
    else c :: percentDecode rest
termination_by cs.length
decreasing_by
  · have := (List.dropWhile_suffix (l := rest) isAscii).length_le
    simp only [List.length_cons]; omega
  · exact Nat.lt_succ_self _

def decodePart (cs : List Char) : String :=
  String.ofList (percentDecode (cs.map fun c => if c == '+' then ' ' else c))

/-- A name without an equals sign has the empty value. -/
def decodePair (cs : List Char) : String × String :=
  (decodePart (cs.takeWhile (· != '=')), decodePart ((cs.dropWhile (· != '=')).drop 1))

def decodeQuery (query : String) : List (String × String) :=
  let parts := (query.toList.splitOn '&').filter fun p => !p.isEmpty
  parts.map decodePair

/-- The values as fields; the last value of a name counts. -/
def queryMembers (query : String) : Json.Members :=
  (decodeQuery query).foldl (fun ms p => Json.Members.put p.1 (.text p.2) ms) []

/-- Bytes of a redirect target that may stand for themselves. -/
def isPlainInTarget (c : Char) : Bool :=
  c.isAlphanum || "_.-~:/%#?=@[]!$&'()*+,;".toList.contains c

/-- Every other byte becomes a percent sign and two digits. -/
def encodeTarget (s : String) : String :=
  let encode (c : Char) : List Char :=
    if isPlainInTarget c then [c]
    else (String.singleton c).toUTF8.toList.flatMap fun b =>
      '%' :: (Text.hex 2 b.toNat).map Char.toUpper
  String.ofList (s.toList.flatMap encode)

end DocNumber.Http
