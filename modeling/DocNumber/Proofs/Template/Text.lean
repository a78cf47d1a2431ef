import DocNumber.Proofs.Template.Grammar
import DocNumber.Proofs.Text.Digits
import DocNumber.Template.Render

/-!
The text of a template that is filled in: the texts of its pieces in a row. With both codes at hand
and no sequence place of less than no width there always is one; else, filling in stops at the
first piece that cannot be printed.
-/

namespace DocNumber.Template

/-- What a piece prints; nothing where a value is missing. -/
def Token.text (ctx : Context) (t : Token) : List Char :=
  match t.render ctx with
  | .ok cs => cs
  | .error _ => []

def Context.Coded (ctx : Context) : Prop :=
  ctx.department.isSome = true ∧ ctx.documentType.isSome = true

/-- No sequence place has a width below zero. -/
def Wide (default : Int) (ts : List Token) : Prop :=
  ∀ w, Token.place .sequence w ∈ ts → 0 ≤ widthOr default w

theorem widthOr_nonneg {default : Int} (h : 0 ≤ default) (w : Option Nat) :
    0 ≤ widthOr default w := by
  cases w with
  | none => exact h
  | some w => exact Int.natCast_nonneg w

theorem wide_of_nonneg {default : Int} (h : 0 ≤ default) (ts : List Token) : Wide default ts :=
  fun w _ => widthOr_nonneg h w

/-- A sequence place prints its value, if it has a width at all. -/
theorem render_sequence {ctx : Context} {w : Option Nat} (h : 0 ≤ widthOr ctx.defaultWidth w) :
    (Token.place .sequence w).render ctx =
      .ok (Text.padded (widthOr ctx.defaultWidth w).toNat ctx.sequence) :=
  if_neg (Int.not_lt.mpr h)

theorem text_of_render {ctx : Context} {t : Token} {cs : List Char} (h : t.render ctx = .ok cs) :
    t.text ctx = cs := by
  rw [Token.text, h]

theorem render_eq_text {ctx : Context} (h : ctx.Coded) {t : Token}
    (wide : ∀ w, t = .place .sequence w → 0 ≤ widthOr ctx.defaultWidth w) :
    t.render ctx = .ok (t.text ctx) := by
  obtain ⟨department, hd⟩ := Option.isSome_iff_exists.mp h.1
  obtain ⟨documentType, ht⟩ := Option.isSome_iff_exists.mp h.2
  have printed : ∃ cs, t.render ctx = .ok cs := by
    cases t with
    | literal text => exact ⟨text, rfl⟩
    | place label w =>
      cases label with
      | sequence => exact ⟨_, render_sequence (wide w rfl)⟩
      | department | documentType | year2 | year4 | month2 =>
        simp [Token.render, Context.fill, hd, ht]
  obtain ⟨cs, hcs⟩ := printed
  rw [text_of_render hcs, hcs]

theorem renderTokens_eq_text {ctx : Context} (h : ctx.Coded) {ts : List Token}
    (wide : Wide ctx.defaultWidth ts) :
    renderTokens ctx ts = .ok (ts.flatMap (Token.text ctx)) := by
  induction ts with
  | nil => rfl
  | cons t ts ih =>
    have first : t.render ctx = .ok (t.text ctx) :=
      render_eq_text h fun w same => wide w (by simp [same])
    have others : renderTokens ctx ts = .ok (ts.flatMap (Token.text ctx)) :=
      ih fun w hw => wide w (List.mem_cons_of_mem t hw)
    rw [renderTokens, first, others, List.flatMap_cons]
    rfl

/-- What is printed is the texts of the pieces in a row. -/
theorem renderTokens_ok {ctx : Context} {ts : List Token} {x : List Char}
    (h : renderTokens ctx ts = .ok x) : ts.flatMap (Token.text ctx) = x := by
  induction ts generalizing x with
  | nil => exact Except.ok.inj h
  | cons t ts ih =>
    rw [renderTokens] at h
    rw [List.flatMap_cons, Token.text]
    cases ht : t.render ctx with
    | error f =>
      rw [ht] at h
      cases h
    | ok front =>
      rw [ht] at h
      obtain ⟨rest, hr, rfl⟩ := map_eq_ok_iff.mp h
      rw [ih hr]

/-- Pieces in a row are filled in one after the other, up to the first fault. -/
theorem renderTokens_append (ctx : Context) (ts us : List Token) :
    renderTokens ctx (ts ++ us) =
      match renderTokens ctx ts with
      | .error f => .error f
      | .ok front => (renderTokens ctx us).map (front ++ ·) := by
  induction ts with
  | nil => cases h : renderTokens ctx us <;> simp [renderTokens, h, Except.map]
  | cons t ts ih =>
    simp only [List.cons_append, renderTokens, ih]
    cases t.render ctx with
    | error f => rfl
    | ok first =>
      cases renderTokens ctx ts with
      | error f => rfl
      | ok front => cases renderTokens ctx us <;> simp [Except.map]

theorem render_of_parse {ctx : Context} (h : ctx.Coded) {cs : List Char} {ts : List Token}
    (hp : parse cs = .ok ts) (wide : Wide ctx.defaultWidth ts) :
    render cs ctx = .ok (ts.flatMap (Token.text ctx)) := by
  simp only [render, hp, renderTokens_eq_text h wide]

end DocNumber.Template
