import DocNumber.Json.Value
import DocNumber.Text.Digits

/-!
Reading JSON text. `NaN` and the infinities are numbers too; a control character inside a string
is refused, and so is a byte order mark. A fault remembers how much text was left where it arose;
`ReadError` turns that into line, column and position. Text that is well formed can be too much all
the same: a whole number with too many digits, or values that nest too deep.
-/

namespace DocNumber.Json

inductive Expected
  | byteOrderMark
  | value
  | propertyName
  | colon
  | comma
  | controlCharacter
  | escape
  | unicodeEscape
  | terminator
  | nothingMore
deriving DecidableEq, Repr

def Expected.message : Expected → String
  | .byteOrderMark => "Unexpected UTF-8 BOM (decode using utf-8-sig)"
  | .value => "Expecting value"
  | .propertyName => "Expecting property name enclosed in double quotes"
  | .colon => "Expecting ':' delimiter"
  | .comma => "Expecting ',' delimiter"
  | .controlCharacter => "Invalid control character at"
  | .escape => "Invalid \\escape"
  | .unicodeEscape => "Invalid \\uXXXX escape"
  | .terminator => "Unterminated string starting at"
  | .nothingMore => "Extra data"

/-- A fault and the length of the text from it to the end. -/
structure Stop where
  cause : Expected
  left : Nat
deriving DecidableEq, Repr

/-- Why reading ends without a value: the text is malformed at some place, a whole number has too
many digits, or a list or an object stands in too many others. -/
inductive Halt (α : Type)
  | malformed (place : α)
  | longInt (digits : Nat)
  | tooDeep (inObject : Bool)
deriving DecidableEq, Repr

def Halt.map {α β : Type} (f : α → β) : Halt α → Halt β
  | .malformed place => .malformed (f place)
  | .longInt digits => .longInt digits
  | .tooDeep inObject => .tooDeep inObject

def isSpace (c : Char) : Bool :=
  c == ' ' || c == '\t' || c == '\n' || c == '\r'

def skipSpace (cs : List Char) : List Char :=
  cs.dropWhile isSpace

/-- Removes `word` from the front. -/
def dropWord? : List Char → List Char → Option (List Char)
  | [], cs => some cs
  | w :: ws, c :: cs => if w == c then dropWord? ws cs else none
  | _ :: _, [] => none

def simpleEscape? : Char → Option Char
  | '"' => some '"'
  | '\\' => some '\\'
  | '/' => some '/'
  | 'b' => some '\x08'
  | 'f' => some '\x0c'
  | 'n' => some '\n'
  | 'r' => some '\r'
  | 't' => some '\t'
  | _ => none

/-- Four hexadecimal digits, with more text after them. -/
def hexFour? : List Char → Option (Nat × List Char)
  | a :: b :: c :: d :: rest =>
    if rest.isEmpty then none
    else do
      let a ← Text.hexValue? a
      let b ← Text.hexValue? b
      let c ← Text.hexValue? c
      let d ← Text.hexValue? d
      return (((a * 16 + b) * 16 + c) * 16 + d, rest)
  | _ => none

/-- The code after `\u`; a high surrogate takes the low one after it, if that is one. -/
def readUnicode (cs : List Char) : Except Stop (Nat × List Char) :=
  match hexFour? cs with
  | none => .error ⟨.unicodeEscape, cs.length + 1⟩
  | some (n, rest) =>
    match rest with
    | '\\' :: 'u' :: more =>
      if 0xD800 ≤ n && n ≤ 0xDBFF && 4 < more.length then
        match hexFour? more with
        | none => .error ⟨.unicodeEscape, more.length + 1⟩
        | some (low, after) =>
          if 0xDC00 ≤ low && low ≤ 0xDFFF then
            .ok (0x10000 + (n - 0xD800) * 0x400 + (low - 0xDC00), after)
          else .ok (n, rest)
      else .ok (n, rest)
    | _ => .ok (n, rest)

/-- A code that no character has by itself. -/
def isHalf (n : Nat) : Bool :=
  0xD800 ≤ n && n ≤ 0xDFFF

/-- Half of a surrogate pair is shown as a replacement character. -/
def charOf (n : Nat) : Char :=
  if isHalf n then '\uFFFD' else Char.ofNat n

/-- Reads up to the closing quote; `start` is the text from the opening one. The second argument
bounds the number of steps. -/
def readString (start : List Char) : Nat → List Char → Except Stop (List Char × List Char)
  | 0, _ => .error ⟨.terminator, start.length⟩
  | _, [] => .error ⟨.terminator, start.length⟩
  | fuel + 1, c :: rest =>
    if c == '"' then .ok ([], rest)
    else if c == '\\' then
      match rest with
      | [] => .error ⟨.terminator, start.length⟩
      | 'u' :: more =>
        match readUnicode more with
        | .error e => .error e
        | .ok (n, after) =>
          (readString start fuel after).map fun (s, left) => (charOf n :: s, left)
      | e :: more =>
        match simpleEscape? e with
        | none => .error ⟨.escape, rest.length + 1⟩
        | some x => (readString start fuel more).map fun (s, left) => (x :: s, left)
    else if c.toNat < 32 then .error ⟨.controlCharacter, rest.length + 1⟩
    else (readString start fuel rest).map fun (s, left) => (c :: s, left)

/-- The digits of a whole number: a lone zero, or a run that starts with another digit. -/
def readWhole? (cs : List Char) : Option (List Char × List Char) :=
  match cs with
  | '0' :: rest => some (['0'], rest)
  | c :: _ =>
    if Text.isDigit c then some (cs.takeWhile Text.isDigit, cs.dropWhile Text.isDigit) else none
  | [] => none

def readFraction (cs : List Char) : List Char × List Char :=
  match cs with
  | '.' :: rest =>
    let ds := rest.takeWhile Text.isDigit
    if ds.isEmpty then ([], cs) else (ds, rest.dropWhile Text.isDigit)
  | _ => ([], cs)

def readPower (cs : List Char) : Option Int × List Char :=
  match cs with
  | e :: rest =>
    if e == 'e' || e == 'E' then
      let (negative, body) :=
        match rest with
        | '-' :: r => (true, r)
        | '+' :: r => (false, r)
        | _ => (false, rest)
      let ds := body.takeWhile Text.isDigit
      if ds.isEmpty then (none, cs)
      else
        let n : Int := Text.value ds
        (some (if negative then -n else n), body.dropWhile Text.isDigit)
    else (none, cs)
  | [] => (none, cs)

/-- A number with neither a fraction nor an exponent is a whole number. -/
def readNumber? (cs : List Char) : Option (Except (Halt Stop) (Json × List Char)) :=
  let (negative, body) :=
    match cs with
    | '-' :: rest => (true, rest)
    | _ => (false, cs)
  match readWhole? body with
  | none => none
  | some (whole, rest) =>
    let (fraction, rest) := readFraction rest
    let (power, rest) := readPower rest
    if fraction.isEmpty && power.isNone then
      if Text.longestInteger < whole.length then some (.error (.longInt whole.length))
      else
        let n : Int := Text.value whole
        some (.ok (.int (if negative then -n else n), rest))
    else
      let x := Decimal.Binary64.ofDecimal negative (Text.value (whole ++ fraction))
        (power.getD 0 - fraction.length)
      some (.ok (.real x, rest))

def readScalar? (cs : List Char) : Option (Except (Halt Stop) (Json × List Char)) :=
  let word (w : String) (v : Json) := (dropWord? w.toList cs).map fun rest => .ok (v, rest)
  word "null" .null <|> word "true" (.bool true) <|> word "false" (.bool false) <|>
    word "NaN" (.real .nan) <|> word "Infinity" (.real (.infinite false)) <|>
    word "-Infinity" (.real (.infinite true)) <|> readNumber? cs

mutual

/-- One value at the front of the text, in which at most `room` lists and objects stand in each
other. The second argument bounds the number of steps: no character takes more than two. -/
def readValue (room : Nat) : Nat → List Char → Except (Halt Stop) (Json × List Char)
  | 0, cs => .error (.malformed ⟨.value, cs.length⟩)
  | fuel + 1, cs =>
    match cs with
    | '"' :: rest =>
      match readString cs (fuel + 1) rest with
      | .error e => .error (.malformed e)
      | .ok (s, left) => .ok (.text (String.ofList s), left)
    | '\x7b' :: rest =>
      match room with
      | 0 => .error (.tooDeep true)
      | room + 1 =>
        match skipSpace rest with
        | '\x7d' :: left => .ok (.object [], left)
        | inner => (readMembers room fuel [] inner).map fun (ms, left) => (.object ms, left)
    | '[' :: rest =>
      match room with
      | 0 => .error (.tooDeep false)
      | room + 1 =>
        match skipSpace rest with
        | ']' :: left => .ok (.list [], left)
        | inner => (readItems room fuel inner).map fun (xs, left) => (.list xs, left)
    | _ =>
      match readScalar? cs with
      | some found => found
      | none => .error (.malformed ⟨.value, cs.length⟩)

def readItems (room : Nat) : Nat → List Char → Except (Halt Stop) (List Json × List Char)
  | 0, cs => .error (.malformed ⟨.value, cs.length⟩)
  | fuel + 1, cs =>
    match readValue room fuel cs with
    | .error h => .error h
    | .ok (v, rest) =>
      match skipSpace rest with
      | ']' :: left => .ok ([v], left)
      | ',' :: more =>
        (readItems room fuel (skipSpace more)).map fun (vs, left) => (v :: vs, left)
      | other => .error (.malformed ⟨.comma, other.length⟩)

/-- The members read so far come first, so that a repeated key meets its earlier place. -/
def readMembers (room : Nat) : Nat → Members → List Char → Except (Halt Stop) (Members × List Char)
  | 0, _, cs => .error (.malformed ⟨.propertyName, cs.length⟩)
  | fuel + 1, done, cs =>
    match cs with
    | '"' :: rest =>
      match readString cs (fuel + 1) rest with
      | .error e => .error (.malformed e)
      | .ok (key, afterKey) =>
        match skipSpace afterKey with
        | ':' :: body =>
          match readValue room fuel (skipSpace body) with
          | .error h => .error h
          | .ok (v, afterValue) =>
            let done := Members.put (String.ofList key) v done
            match skipSpace afterValue with
            | '\x7d' :: left => .ok (done, left)
            | ',' :: more => readMembers room fuel done (skipSpace more)
            | other => .error (.malformed ⟨.comma, other.length⟩)
        | other => .error (.malformed ⟨.colon, other.length⟩)
    | _ => .error (.malformed ⟨.propertyName, cs.length⟩)

end

/-- Reads a whole text, white space around the value allowed. Below the first level there is `room`
for more. -/
def readAll (room : Nat) (cs : List Char) : Except (Halt Stop) Json :=
  match cs with
  | '\uFEFF' :: _ => .error (.malformed ⟨.byteOrderMark, cs.length⟩)
  | _ =>
    match readValue (room + 1) (2 * cs.length + 2) (skipSpace cs) with
    | .error h => .error h
    | .ok (v, rest) =>
      match skipSpace rest with
      | [] => .ok v
      | left => .error (.malformed ⟨.nothingMore, left.length⟩)

/-- What was wrong, and where: a position, a line and a column. -/
structure ReadError where
  cause : Expected
  position : Nat
  line : Nat
  column : Nat
deriving DecidableEq, Repr

/-- Lines and columns count from one, positions from zero. -/
def Stop.locate (cs : List Char) (s : Stop) : ReadError :=
  let before := cs.take (cs.length - s.left)
  { cause := s.cause
    position := before.length
    line := before.count '\n' + 1
    column := (before.reverse.takeWhile (· != '\n')).length + 1 }

def ReadError.message (e : ReadError) : String :=
  e.cause.message ++ ": line " ++ toString e.line ++ " column " ++ toString e.column ++
    " (char " ++ toString e.position ++ ")"

def Halt.message : Halt ReadError → String
  | .malformed e => e.message
  | .longInt digits =>
    "Exceeds the limit (" ++ toString Text.longestInteger ++
      " digits) for integer string conversion: value has " ++ toString digits ++
      " digits; use sys.set_int_max_str_digits() to increase the limit"
  | .tooDeep inObject =>
    "maximum recursion depth exceeded while decoding a JSON " ++
      (if inObject then "object" else "array") ++ " from a unicode string"

def read (room : Nat) (text : String) : Except (Halt ReadError) Json :=
  let cs := text.toList
  (readAll room cs).mapError (Halt.map (Stop.locate cs))

/-- Looks for half of a surrogate pair that is escaped alone. The first argument bounds the number
of steps. -/
def tornFrom : Nat → List Char → Bool
  | 0, _ => false
  | _, [] => false
  | fuel + 1, '\\' :: 'u' :: more =>
    match readUnicode more with
    | .ok (n, after) => isHalf n || tornFrom fuel after
    | .error _ => tornFrom fuel more
  | fuel + 1, '\\' :: _ :: more => tornFrom fuel more
  | fuel + 1, _ :: more => tornFrom fuel more

/-- Some text in this JSON has half of a surrogate pair without the other. -/
def torn (text : String) : Bool :=
  let cs := text.toList
  tornFrom cs.length cs

end DocNumber.Json
