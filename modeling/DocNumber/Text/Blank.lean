/-!
Blank characters and stripping. What counts as blank is fixed here once: names, codes and
templates that hold nothing else are empty, and codes are compared without it.
-/

namespace DocNumber.Text

/-- The Unicode white space characters. -/
def isSpace (c : Char) : Bool :=
  let n := c.toNat
  (9 ≤ n && n ≤ 13) || n == 0x20 || n == 0x85 || n == 0xA0 || n == 0x1680 ||
    (0x2000 ≤ n && n ≤ 0x200A) || n == 0x2028 || n == 0x2029 || n == 0x202F ||
    n == 0x205F || n == 0x3000

/-- White space and the four information separators. -/
def isBlank (c : Char) : Bool :=
  isSpace c || (0x1C ≤ c.toNat && c.toNat ≤ 0x1F)

def stripEndBy (p : Char → Bool) (cs : List Char) : List Char :=
  (cs.reverse.dropWhile p).reverse

def stripBy (p : Char → Bool) (cs : List Char) : List Char :=
  stripEndBy p (cs.dropWhile p)

/-- The text without blanks at either end. -/
def strip (s : String) : String :=
  String.ofList (stripBy isBlank s.toList)

/-- Nothing but blanks. -/
def allBlank (s : String) : Bool :=
  s.toList.all isBlank

theorem dropWhile_eq_nil_iff_all (p : Char → Bool) (cs : List Char) :
    cs.dropWhile p = [] ↔ cs.all p = true := by
  induction cs with
  | nil => simp
  | cons c cs ih => by_cases h : p c = true <;> simp [h, ih]

/-- Stripping empties exactly the texts that hold blanks only. -/
theorem stripBy_eq_nil_iff (p : Char → Bool) (cs : List Char) :
    stripBy p cs = [] ↔ cs.all p = true := by
  rw [stripBy, stripEndBy, List.reverse_eq_nil_iff, dropWhile_eq_nil_iff_all, List.all_reverse,
    ← dropWhile_eq_nil_iff_all p cs]
  constructor
  · intro h
    cases hd : cs.dropWhile p with
    | nil => rfl
    | cons c rest =>
      have hc : p c = true := by
        rw [hd] at h; exact (List.all_eq_true.1 h) c (by simp)
      have := List.head?_dropWhile_not p cs
      rw [hd] at this
      simp [hc] at this
  · intro h; simp [h]

end DocNumber.Text
