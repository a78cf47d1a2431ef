/-!
Decimal digits: writing whole numbers padded to a width, and reading digit runs back.
-/

namespace DocNumber.Text

def digitChar (d : Nat) : Char :=
  Char.ofNat (48 + d % 10)

/-- The decimal notation of `n`, most significant digit first. -/
def digits (n : Nat) : List Char :=
  if n < 10 then [digitChar n] else digits (n / 10) ++ [digitChar n]
termination_by n

/-- The last `w` decimal digits of `n`, zeros in front. -/
def lastDigits : Nat → Nat → List Char
  | 0, _ => []
  | w + 1, n => lastDigits w (n / 10) ++ [digitChar n]

def integer : Int → List Char
  | .ofNat n => digits n
  | .negSucc n => '-' :: digits (n + 1)

def padZeros (w : Nat) (cs : List Char) : List Char :=
  List.replicate (w - cs.length) '0' ++ cs

/-- Zeros bring the notation to at least `w` characters; a sign stands first and counts. -/
def padded (w : Nat) : Int → List Char
  | .ofNat n => padZeros w (digits n)
  | .negSucc n => '-' :: padZeros (w - 1) (digits (n + 1))

def isDigit (c : Char) : Bool :=
  '0' ≤ c && c ≤ '9'

def digitValue (c : Char) : Nat :=
  c.toNat - 48

/-- The value of a run of digits. -/
def value (cs : List Char) : Nat :=
  cs.foldl (fun n c => 10 * n + digitValue c) 0

/-- Reads a text that is digits throughout, and not empty. -/
def readDigits? (cs : List Char) : Option Nat :=
  if !cs.isEmpty && cs.all isDigit then some (value cs) else none

/-- The most digits that a whole number is read from. -/
def longestInteger : Nat := 4300

/-- Reads exactly `w` digits off the front. -/
def takeDigits? (w : Nat) (cs : List Char) : Option (Nat × List Char) :=
  let front := cs.take w
  if front.length == w && front.all isDigit then some (value front, cs.drop w) else none

def hexDigit (d : Nat) : Char :=
  Char.ofNat (if d < 10 then 48 + d else 87 + d)

/-- The last `w` hexadecimal digits of `n`, lower case. -/
def hex : Nat → Nat → List Char
  | 0, _ => []
  | w + 1, n => hex w (n / 16) ++ [hexDigit (n % 16)]

def hexValue? (c : Char) : Option Nat :=
  if isDigit c then some (digitValue c)
  else if 'a' ≤ c && c ≤ 'f' then some (c.toNat - 87)
  else if 'A' ≤ c && c ≤ 'F' then some (c.toNat - 55)
  else none

theorem digits_ne_nil (n : Nat) : digits n ≠ [] := by
  unfold digits; split <;> simp

theorem length_lastDigits (w n : Nat) : (lastDigits w n).length = w := by
  induction w generalizing n with
  | zero => rfl
  | succ w ih => simp [lastDigits, ih]

end DocNumber.Text
