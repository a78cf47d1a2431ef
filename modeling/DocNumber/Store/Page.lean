import DocNumber.Rule.Basic

/-!
Searching: filters, and two ways to cut a page out of the rows found. `slice` counts negative
places from the end; `limited` takes a negative limit for none and a negative offset for zero.
-/

namespace DocNumber.Store

structure Filters where
  department : Option String
  documentType : Option String
  activeOn : Option Calendar.Day
deriving DecidableEq

def Filters.none : Filters := ⟨.none, .none, .none⟩

/-- What was found: one page, and how many rows there are in all. -/
structure Page where
  rows : List Rule
  total : Nat

/-- A place in a list of `n`, from the end if negative, and never outside. -/
def place (n : Nat) (i : Int) : Nat :=
  if i < 0 then (i + n).toNat else min i.toNat n

def slice {α : Type} (offset limit : Int) (rows : List α) : List α :=
  let n := rows.length
  (rows.take (place n (offset + limit))).drop (place n offset)

def limited {α : Type} (offset limit : Int) (rows : List α) : List α :=
  let rest := rows.drop offset.toNat
  if limit < 0 then rest else rest.take limit.toNat

def ordered (rules : List Rule) : List Rule :=
  rules.mergeSort Rule.precedes

end DocNumber.Store
