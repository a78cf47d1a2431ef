/-!
Reading UTF-8. `decode` refuses malformed bytes and says which ones and why; `decodeLossy` puts
one replacement character for each malformed stretch.
-/

namespace DocNumber.Text.Utf8

inductive Reason
  | invalidStart
  | invalidContinuation
  | unexpectedEnd
deriving DecidableEq, Repr

def Reason.message : Reason → String
  | .invalidStart => "invalid start byte"
  | .invalidContinuation => "invalid continuation byte"
  | .unexpectedEnd => "unexpected end of data"

/-- A malformed stretch: its first byte, where it starts, how many bytes it takes. -/
structure Malformed where
  first : Nat
  position : Nat
  length : Nat
  reason : Reason
deriving DecidableEq, Repr

/-- How many bytes follow a leading byte, and the bounds of the first of them. -/
def shape? (b : Nat) : Option (Nat × Nat × Nat) :=
  if b < 0x80 then some (0, 0, 0)
  else if 0xC2 ≤ b && b ≤ 0xDF then some (1, 0x80, 0xBF)
  else if b == 0xE0 then some (2, 0xA0, 0xBF)
  else if b == 0xED then some (2, 0x80, 0x9F)
  else if 0xE1 ≤ b && b ≤ 0xEF then some (2, 0x80, 0xBF)
  else if b == 0xF0 then some (3, 0x90, 0xBF)
  else if 0xF1 ≤ b && b ≤ 0xF3 then some (3, 0x80, 0xBF)
  else if b == 0xF4 then some (3, 0x80, 0x8F)
  else none

/-- The bits that a leading byte contributes when `n` bytes follow it. -/
def leadBits (n b : Nat) : Nat :=
  match n with
  | 0 => b
  | 1 => b % 32
  | 2 => b % 16
  | _ => b % 8

/-- The well-formed bytes that follow a leading byte, at most `n`; the first within its bounds. -/
def followers (n lo hi : Nat) : List Nat → List Nat
  | [] => []
  | b :: rest =>
    match n with
    | 0 => []
    | n + 1 => if lo ≤ b && b ≤ hi then b :: followers n 0x80 0xBF rest else []

inductive Piece
  | char (c : Char) (length : Nat)
  | bad (length : Nat) (reason : Reason)

/-- The first character, or the malformed stretch, of a byte list that starts with `b`. -/
def piece (b : Nat) (rest : List Nat) : Piece :=
  match shape? b with
  | none => .bad 1 .invalidStart
  | some (n, lo, hi) =>
    let tail := followers n lo hi rest
    if tail.length == n then
      .char (Char.ofNat (tail.foldl (fun v x => v * 64 + x % 64) (leadBits n b))) (n + 1)
    else if tail.length == rest.length then .bad (rest.length + 1) .unexpectedEnd
    else .bad (tail.length + 1) .invalidContinuation

def decodeFrom (position : Nat) : List Nat → Except Malformed (List Char)
  | [] => .ok []
  | b :: rest =>
    match piece b rest with
    | .bad length reason => .error ⟨b, position, length, reason⟩
    | .char c length => (decodeFrom (position + length) (rest.drop (length - 1))).map (c :: ·)
termination_by bs => bs.length
decreasing_by simp only [List.length_drop, List.length_cons]; omega

def decode (bytes : List Nat) : Except Malformed (List Char) :=
  decodeFrom 0 bytes

def decodeLossy : List Nat → List Char
  | [] => []
  | b :: rest =>
    match piece b rest with
    | .bad length _ => '\uFFFD' :: decodeLossy (rest.drop (length - 1))
    | .char c length => c :: decodeLossy (rest.drop (length - 1))
termination_by bs => bs.length
decreasing_by all_goals (simp only [List.length_drop, List.length_cons]; omega)

def hexByte (b : Nat) : String :=
  let digit (d : Nat) : Char := Char.ofNat (if d < 10 then 48 + d else 87 + d)
  "0x" ++ String.ofList [digit (b / 16 % 16), digit (b % 16)]

def Malformed.message (m : Malformed) : String :=
  let stretch :=
    if m.length == 1 then
      "byte " ++ hexByte m.first ++ " in position " ++ toString m.position
    else
      "bytes in position " ++ toString m.position ++ "-" ++ toString (m.position + m.length - 1)
  "'utf-8' codec can't decode " ++ stretch ++ ": " ++ m.reason.message

end DocNumber.Text.Utf8
