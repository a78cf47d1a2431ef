/-!
Powers of two and ten, and the bound of a signed 64-bit word.
-/

namespace DocNumber.Decimal

def twoPower (n : Nat) : Nat :=
  Nat.pow 2 n

def tenPower (n : Nat) : Nat :=
  Nat.pow 10 n

/-- Whole numbers of a signed 64-bit word are below it, and not below its negative. -/
def wordBound : Nat :=
  twoPower 63

end DocNumber.Decimal
