import DocNumber.Proofs.Template.Limit

/-!
Texts of one template in the order of the sequence. All before the first sequence place is the
same; there, up to the limit, equally many digits stand on both sides, and the smaller value comes
first whatever follows.
-/

namespace DocNumber.Template

/-- The same context with another value of the sequence. -/
def Context.withSequence (ctx : Context) (n : Int) : Context :=
  { ctx with sequence := n }

variable {ctx : Context} {ts : List Token}

theorem text_withSequence {t : Token} (other : ∀ w, t ≠ .place .sequence w) (m n : Int) :
    t.text (ctx.withSequence m) = t.text (ctx.withSequence n) := by
  cases t with
  | literal text => rfl
  | place label w =>
    cases label with
    | sequence => exact absurd rfl (other w)
    | department | documentType | year2 | year4 | month2 => rfl

/-- The first sequence place decides, if the greater value fits each of them. -/
theorem flatMap_text_lt {m n : Nat} (printed : Prints ts .sequence)
    (fits : ∀ w, Token.place .sequence w ∈ ts →
      1 ≤ widthOr ctx.defaultWidth w ∧ n < 10 ^ (widthOr ctx.defaultWidth w).toNat) (less : m < n) :
    ts.flatMap (Token.text (ctx.withSequence m)) <
      ts.flatMap (Token.text (ctx.withSequence n)) := by
  induction ts with
  | nil =>
    obtain ⟨w, hw⟩ := printed
    cases hw
  | cons t ts ih =>
    rw [List.flatMap_cons, List.flatMap_cons]
    by_cases here : ∃ w, t = .place .sequence w
    · obtain ⟨w, rfl⟩ := here
      obtain ⟨pos, room⟩ := fits w List.mem_cons_self
      have width : 1 ≤ (widthOr ctx.defaultWidth w).toNat := by omega
      have printed (k : Int) : (Token.place .sequence w).text (ctx.withSequence k) =
          Text.padded (widthOr ctx.defaultWidth w).toNat k := by
        have wide : 0 ≤ widthOr (ctx.withSequence k).defaultWidth w := Int.le_of_lt pos
        exact text_of_render (render_sequence wide)
      have lt := Text.padded_lt width room less
      rw [printed, printed]
      refine Text.append_lt_append lt ?_ _ _
      rw [Text.length_padded width room, Text.length_padded width (Nat.lt_trans less room)]
    · have other : ∀ w, t ≠ .place .sequence w := fun w h => here ⟨w, h⟩
      have later : Prints ts .sequence := by
        obtain ⟨w, hw⟩ := printed
        exact ⟨w, (List.mem_cons.mp hw).resolve_left (other w).symm⟩
      rw [text_withSequence other m n]
      exact List.append_left_lt (ih later fun w hw => fits w (List.mem_cons_of_mem t hw))

/-- Up to the limit, the greater value gives the text that comes later. -/
theorem text_lt_of_le_limit {m n : Int} (proper : PlacesProper ts) (printed : Prints ts .sequence)
    (pos : 1 ≤ ctx.defaultWidth) (nonneg : 0 ≤ m) (less : m < n)
    (le : n ≤ limitOf ctx.defaultWidth ts) :
    ts.flatMap (Token.text (ctx.withSequence m)) <
      ts.flatMap (Token.text (ctx.withSequence n)) := by
  obtain ⟨m, rfl⟩ := Int.eq_ofNat_of_zero_le nonneg
  obtain ⟨n, rfl⟩ := Int.eq_ofNat_of_zero_le (show 0 ≤ n by omega)
  have fits (w : Option Nat) (hw : Token.place .sequence w ∈ ts) :
      1 ≤ widthOr ctx.defaultWidth w ∧ n < 10 ^ (widthOr ctx.defaultWidth w).toNat :=
    lt_width_of_le_limitOf proper pos (by omega) hw
  exact flatMap_text_lt printed fits (by omega)

end DocNumber.Template
