import DocNumber.Proofs.Template.Limit

/-!
When two fillings of one template print the same text. All places but those of the two codes have
a fixed width, so if no more than one of the codes that are printed differs, equal texts agree
place by place (`flatMap_text_eq_iff`): they are equal exactly when the contexts agree on every
label that the template prints.
-/

namespace DocNumber.Template

/-- The contexts print the same at a place with this label. -/
def Context.SameAt (a b : Context) : Label → Prop
  | .department => a.department = b.department
  | .documentType => a.documentType = b.documentType
  | .year2 => a.year.fmod 100 = b.year.fmod 100
  | .year4 => a.year = b.year
  | .month2 => a.month = b.month
  | .sequence => a.sequence = b.sequence

/-- Every number fits the place it is printed in. -/
structure Context.Fits (ctx : Context) (ts : List Token) : Prop where
  coded : ctx.Coded
  year : 0 ≤ ctx.year ∧ ctx.year ≤ 9999
  month : 0 ≤ ctx.month ∧ ctx.month ≤ 99
  sequence : 0 ≤ ctx.sequence ∧ ctx.sequence ≤ limitOf ctx.defaultWidth ts
  width : 1 ≤ ctx.defaultWidth ∧ ctx.defaultWidth ≤ maxWidth

/-- The length of a place; a code takes what it needs. -/
def Context.room (ctx : Context) : Label → Option Nat → Nat
  | .department, _ => (ctx.department.getD "").toList.length
  | .documentType, _ => (ctx.documentType.getD "").toList.length
  | .year2, _ => 2
  | .year4, _ => 4
  | .month2, _ => 2
  | .sequence, w => (widthOr ctx.defaultWidth w).toNat

theorem length_text_place {ctx : Context} {ts : List Token} (hp : PlacesProper ts)
    (h : ctx.Fits ts) {label : Label} {w : Option Nat} (hm : Token.place label w ∈ ts) :
    ((Token.place label w).text ctx).length = ctx.room label w := by
  obtain ⟨department, hd⟩ := Option.isSome_iff_exists.mp h.coded.1
  obtain ⟨documentType, ht⟩ := Option.isSome_iff_exists.mp h.coded.2
  obtain ⟨year, hy⟩ := Int.eq_ofNat_of_zero_le h.year.1
  obtain ⟨month, hmonth⟩ := Int.eq_ofNat_of_zero_le h.month.1
  obtain ⟨n, hn⟩ := Int.eq_ofNat_of_zero_le h.sequence.1
  have year_le := h.year.2
  have month_le := h.month.2
  cases label with
  | department => simp [Token.text, Token.render, Context.fill, Context.room, hd]
  | documentType => simp [Token.text, Token.render, Context.fill, Context.room, ht]
  | year2 =>
    have year_mod : ctx.year.fmod 100 = ((year % 100 : Nat) : Int) := by
      rw [hy]
      exact (Int.ofNat_fmod year 100).symm
    simp only [Token.text, Token.render, Context.fill, Context.room, year_mod]
    exact Text.length_padded (by omega) (by omega)
  | year4 =>
    simp only [Token.text, Token.render, Context.fill, Context.room, hy]
    exact Text.length_padded (by omega) (by omega)
  | month2 =>
    simp only [Token.text, Token.render, Context.fill, Context.room, hmonth]
    exact Text.length_padded (by omega) (by omega)
  | sequence =>
    have n_le : n ≤ limitOf ctx.defaultWidth ts := by have := h.sequence.2; omega
    obtain ⟨pos, lt⟩ := lt_width_of_le_limitOf hp h.width.1 n_le hm
    rw [text_of_render (render_sequence (by omega)), hn]
    exact Text.length_padded (by omega) lt

theorem text_place_eq_iff {a b : Context} {ts : List Token} (ha : a.Fits ts) (hb : b.Fits ts)
    (same : a.defaultWidth = b.defaultWidth) (label : Label) (w : Option Nat) :
    (Token.place label w).text a = (Token.place label w).text b ↔ a.SameAt b label := by
  have padded_iff (v : Nat) {m n : Int} (hm : 0 ≤ m) (hn : 0 ≤ n) :
      Text.padded v m = Text.padded v n ↔ m = n := by
    obtain ⟨m, rfl⟩ := Int.eq_ofNat_of_zero_le hm
    obtain ⟨n, rfl⟩ := Int.eq_ofNat_of_zero_le hn
    constructor
    · intro h
      exact congrArg Nat.cast (Text.padded_injective h)
    · intro h
      rw [h]
  have fmod_nonneg (n : Int) : 0 ≤ n.fmod 100 := Int.fmod_nonneg_of_pos n (by omega)
  have nonneg {x : Context} (hx : x.Fits ts) (w : Option Nat) : 0 ≤ widthOr x.defaultWidth w :=
    widthOr_nonneg (by have := hx.width.1; omega) w
  have text_eq (t : Token) : t.text a = t.text b ↔ t.render a = t.render b := by
    rw [render_eq_text ha.coded fun w _ => nonneg ha w,
      render_eq_text hb.coded fun w _ => nonneg hb w, Except.ok.injEq]
  obtain ⟨da, hda⟩ := Option.isSome_iff_exists.mp ha.coded.1
  obtain ⟨db, hdb⟩ := Option.isSome_iff_exists.mp hb.coded.1
  obtain ⟨ta, hta⟩ := Option.isSome_iff_exists.mp ha.coded.2
  obtain ⟨tb, htb⟩ := Option.isSome_iff_exists.mp hb.coded.2
  rw [text_eq]
  cases label with
  | department => simp [Token.render, Context.fill, Context.SameAt, hda, hdb, String.toList_inj]
  | documentType => simp [Token.render, Context.fill, Context.SameAt, hta, htb, String.toList_inj]
  | year2 =>
    simp [Token.render, Context.fill, Context.SameAt,
      padded_iff 2 (fmod_nonneg a.year) (fmod_nonneg b.year)]
  | year4 =>
    simp [Token.render, Context.fill, Context.SameAt, padded_iff 4 ha.year.1 hb.year.1]
  | month2 =>
    simp [Token.render, Context.fill, Context.SameAt, padded_iff 2 ha.month.1 hb.month.1]
  | sequence =>
    rw [render_sequence (nonneg ha w), render_sequence (nonneg hb w), same, Except.ok.injEq]
    exact padded_iff _ ha.sequence.1 hb.sequence.1

/-- Rows of pieces that are nowhere longer on the left and equal in all are equal piece by
piece. -/
theorem eq_of_flatMap_eq {f g : Token → List Char} {ts : List Token}
    (le : ∀ t ∈ ts, (f t).length ≤ (g t).length) (h : ts.flatMap f = ts.flatMap g) :
    ∀ t ∈ ts, f t = g t := by
  have length_le : ∀ us : List Token, (∀ t ∈ us, (f t).length ≤ (g t).length) →
      (us.flatMap f).length ≤ (us.flatMap g).length := by
    intro us hus
    induction us with
    | nil => exact Nat.le_refl _
    | cons t us ih =>
      have ht := hus t (by simp)
      have := ih fun u hu => hus u (by simp [hu])
      simp only [List.flatMap_cons, List.length_append]
      omega
  induction ts with
  | nil => simp
  | cons t ts ih =>
    simp only [List.flatMap_cons] at h
    have ht := le t (by simp)
    have rest := length_le ts fun u hu => le u (by simp [hu])
    have total := congrArg List.length h
    simp only [List.length_append] at total
    -- No piece is longer on the left and all together are equally long, so these two are.
    have heads : (f t).length = (g t).length := by omega
    obtain ⟨hhead, htail⟩ := List.append_inj h heads
    intro u hu
    rcases List.mem_cons.mp hu with rfl | hu
    · exact hhead
    · exact ih (fun v hv => le v (by simp [hv])) htail u hu

/-- At most one of the codes that are printed differs. -/
def OneCodeDiffers (ts : List Token) (a b : Context) : Prop :=
  (Prints ts .department → a.department = b.department) ∨
    (Prints ts .documentType → a.documentType = b.documentType)

theorem room_le {a b : Context} {ts : List Token} (same : a.defaultWidth = b.defaultWidth)
    (hd : Prints ts .department → a.room .department none ≤ b.room .department none)
    (ht : Prints ts .documentType → a.room .documentType none ≤ b.room .documentType none)
    {label : Label} {w : Option Nat} (hm : Token.place label w ∈ ts) :
    a.room label w ≤ b.room label w := by
  cases label with
  | department => exact hd ⟨w, hm⟩
  | documentType => exact ht ⟨w, hm⟩
  | year2 | year4 | month2 => exact Nat.le_refl _
  | sequence => simp [Context.room, same]

/-- The code that differs is the longer one on one side, at all of its places. -/
theorem room_le_total {a b : Context} {ts : List Token} (same : a.defaultWidth = b.defaultWidth)
    (one : OneCodeDiffers ts a b) :
    (∀ label w, Token.place label w ∈ ts → a.room label w ≤ b.room label w) ∨
      (∀ label w, Token.place label w ∈ ts → b.room label w ≤ a.room label w) := by
  rcases one with hd | ht
  · have equal (printed : Prints ts .department) :
        a.room .department none = b.room .department none := by
      simp only [Context.room, hd printed]
    rcases Nat.le_total (a.room .documentType none) (b.room .documentType none) with le | le
    · left
      intro label w
      apply room_le same (fun printed => Nat.le_of_eq (equal printed)) fun _ => le
    · right
      intro label w
      apply room_le same.symm (fun printed => Nat.le_of_eq (equal printed).symm) fun _ => le
  · have equal (printed : Prints ts .documentType) :
        a.room .documentType none = b.room .documentType none := by
      simp only [Context.room, ht printed]
    rcases Nat.le_total (a.room .department none) (b.room .department none) with le | le
    · left
      intro label w
      apply room_le same (fun _ => le) fun printed => Nat.le_of_eq (equal printed)
    · right
      intro label w
      apply room_le same.symm (fun _ => le) fun printed => Nat.le_of_eq (equal printed).symm

theorem length_text_le {a b : Context} {ts : List Token} (hp : PlacesProper ts)
    (ha : a.Fits ts) (hb : b.Fits ts)
    (le : ∀ label w, Token.place label w ∈ ts → a.room label w ≤ b.room label w) :
    ∀ t ∈ ts, (t.text a).length ≤ (t.text b).length := by
  intro t ht
  cases t with
  | literal text => exact Nat.le_refl _
  | place label w =>
    rw [length_text_place hp ha ht, length_text_place hp hb ht]
    exact le label w ht

theorem flatMap_text_eq_iff {a b : Context} {ts : List Token} (hp : PlacesProper ts)
    (ha : a.Fits ts) (hb : b.Fits ts) (same : a.defaultWidth = b.defaultWidth)
    (one : OneCodeDiffers ts a b) :
    ts.flatMap (Token.text a) = ts.flatMap (Token.text b) ↔
      ∀ label, Prints ts label → a.SameAt b label := by
  constructor
  · intro h label ⟨w, hm⟩
    rw [← text_place_eq_iff ha hb same label w]
    rcases room_le_total same one with le | le
    · exact eq_of_flatMap_eq (length_text_le hp ha hb le) h _ hm
    · exact (eq_of_flatMap_eq (length_text_le hp hb ha le) h.symm _ hm).symm
  · intro h
    rw [List.flatMap_def, List.flatMap_def]
    apply congrArg List.flatten
    apply List.map_congr_left
    intro t ht
    cases t with
    | literal text => rfl
    | place label w => exact (text_place_eq_iff ha hb same label w).mpr (h label ⟨w, ht⟩)

end DocNumber.Template
