import DocNumber.Proofs.Text.Digits
import DocNumber.Template.Parse
import Mathlib.Data.List.TakeWhile

/-!
The grammar of templates. Reading a text gives a list of pieces exactly when the list is canonical
and the text is one of its spellings (`parse_eq_ok_iff`): whatever spells no such list is refused,
and the plain spelling of a list is read as that list. Both directions go piece by piece, each
character of literal text being joined to the literal that follows it.
-/

namespace DocNumber.Template

theorem map_eq_ok_iff {ε α β : Type} {f : α → β} {e : Except ε α} {b : β} :
    e.map f = .ok b ↔ ∃ a, e = .ok a ∧ f a = b := by
  cases e <;> simp [Except.map]

theorem map_map {ε α β γ : Type} (g : β → γ) (f : α → β) (e : Except ε α) :
    (e.map f).map g = e.map (g ∘ f) := by
  cases e <;> rfl

theorem map_mapError {ε ε' α β : Type} (f : α → β) (g : ε → ε') (e : Except ε α) :
    (e.map f).mapError g = (e.mapError g).map f := by
  cases e <;> rfl

instance : (t : Token) → Decidable t.Proper
  | .literal text =>
    decidable_of_iff (text ≠ [] ∧ text.all (fun c => !isBrace c) = true) (by simp [Token.Proper])
  | .place _ none => inferInstanceAs (Decidable True)
  | .place _ (some _) => inferInstanceAs (Decidable (_ ∧ _))

instance Canonical.decidable : (ts : List Token) → Decidable (Canonical ts)
  | [] => inferInstanceAs (Decidable True)
  | [t] => inferInstanceAs (Decidable t.Proper)
  | t :: u :: rest =>
    have := Canonical.decidable (u :: rest)
    inferInstanceAs (Decidable (t.Proper ∧ _ ∧ Canonical (u :: rest)))

instance (w : Nat) (cs : List Char) : Decidable (WidthText w cs) :=
  decidable_of_iff
    (cs.all Text.isDigit = true ∧ (cs.length = 1 ∨ cs.length = 2) ∧ Text.value cs = w)
    (by simp [WidthText])

/-! ## What stands between braces -/

theorem splitAtFirst_of_notMem {mark : Char} {cs : List Char} (h : mark ∉ cs) :
    splitAtFirst mark cs = (cs, none) := by
  have all : cs.dropWhile (· != mark) = [] := by
    rw [List.dropWhile_eq_nil_iff]
    intro c hc
    exact bne_iff_ne.mpr (ne_of_mem_of_not_mem hc h)
  rw [splitAtFirst, all]

theorem span_mark {mark : Char} {a : List Char} (h : mark ∉ a) (b : List Char) :
    (a ++ mark :: b).takeWhile (· != mark) = a ∧
      (a ++ mark :: b).dropWhile (· != mark) = mark :: b := by
  have before : ∀ c ∈ a, (c != mark) = true := by
    intro c hc
    exact bne_iff_ne.mpr (ne_of_mem_of_not_mem hc h)
  rw [List.takeWhile_append_of_pos before, List.dropWhile_append_of_pos before]
  simp

theorem splitAtFirst_append {mark : Char} {a : List Char} (h : mark ∉ a) (b : List Char) :
    splitAtFirst mark (a ++ mark :: b) = (a, some b) := by
  obtain ⟨front, back⟩ := span_mark h b
  rw [splitAtFirst, back, front]

theorem Label.ofName?_eq_some_iff {cs : List Char} {label : Label} :
    ofName? cs = some label ↔ cs = label.name := by
  constructor
  · intro h
    have := List.find?_some h
    exact (beq_iff_eq.mp this).symm
  · rintro rfl
    cases label <;> rfl

theorem Label.name_plain (label : Label) : ∀ c ∈ label.name, c ≠ ':' ∧ isBrace c = false := by
  cases label <;> simp [Label.name, isBrace]

theorem WidthText.plain {w : Nat} {ds : List Char} (h : WidthText w ds) :
    ∀ c ∈ ds, isBrace c = false := by
  intro c hc
  obtain ⟨low, high⟩ := Text.toNat_of_isDigit (h.1 c hc)
  simp only [isBrace, Bool.or_eq_false_iff, beq_eq_false_iff_ne, ne_eq]
  constructor
  all_goals
    rintro rfl
    revert high
    decide

theorem readDigits?_eq_some_iff {ds : List Char} {w : Nat} :
    Text.readDigits? ds = some w ↔
      ds ≠ [] ∧ (∀ c ∈ ds, Text.isDigit c = true) ∧ Text.value ds = w := by
  unfold Text.readDigits?
  cases ds <;> simp [and_assoc]

theorem readPlace_bare (label : Label) : readPlace label.name = .ok (.place label none) := by
  have noColon : ':' ∉ label.name := fun h => (label.name_plain _ h).1 rfl
  simp only [readPlace, splitAtFirst_of_notMem noColon, Label.ofName?_eq_some_iff.mpr rfl]

theorem readPlace_wide {w : Nat} {ds : List Char} (h : WidthText w ds)
    (bounds : 1 ≤ w ∧ w ≤ maxWidth) :
    readPlace (Label.sequence.name ++ ':' :: ds) = .ok (.place .sequence (some w)) := by
  obtain ⟨digits, length, value⟩ := h
  have noColon : ':' ∉ Label.sequence.name := by decide
  have read : Text.readDigits? ds = some w := by
    rw [readDigits?_eq_some_iff]
    refine ⟨?_, digits, value⟩
    rintro rfl
    simp at length
  have short : ¬ds.length > 2 := by omega
  simp only [readPlace, splitAtFirst_append noColon, Label.ofName?_eq_some_iff.mpr rfl, read,
    ne_eq, not_true_eq_false, ↓reduceIte, short, bounds, and_self]

/-- A body is read as the place that it spells between its braces. -/
theorem readPlace_spells {body : List Char} {t : Token} (h : readPlace body = .ok t) :
    t.Proper ∧ t.isLiteral = false ∧ t.Spells ('\x7b' :: body ++ ['\x7d']) := by
  by_cases colon : ':' ∈ body
  · obtain ⟨name, ds, rfl, noColon⟩ := List.eq_append_cons_of_mem colon
    simp only [readPlace, splitAtFirst_append noColon] at h
    split at h
    · cases h
    rename_i label named
    rw [Label.ofName?_eq_some_iff] at named
    subst named
    split at h
    · cases h
    rename_i onSequence
    split at h
    · cases h
    rename_i w read
    obtain ⟨nonempty, digits, value⟩ := readDigits?_eq_some_iff.mp read
    split at h
    · cases h
    split at h
    · rename_i short bounds
      cases h
      have := List.length_pos_iff.mpr nonempty
      have spells := Token.Spells.wide label w ds ⟨digits, by omega, value⟩
      exact ⟨⟨by simpa using onSequence, bounds⟩, rfl, by simpa using spells⟩
    · cases h
  · simp only [readPlace, splitAtFirst_of_notMem colon] at h
    split at h
    · cases h
    · rename_i label named
      rw [Label.ofName?_eq_some_iff] at named
      subst named
      cases h
      exact ⟨trivial, rfl, .bare label⟩

/-- The place that a proper piece spells, taken apart into braces and a body that is read as it. -/
theorem readPlace_of_spells {label : Label} {width : Option Nat} {a : List Char}
    (proper : (Token.place label width).Proper) (h : (Token.place label width).Spells a) :
    ∃ body, a = '\x7b' :: body ++ ['\x7d'] ∧ (∀ c ∈ body, isBrace c = false) ∧
      readPlace body = .ok (.place label width) := by
  cases h with
  | bare =>
    exact ⟨label.name, rfl, fun c hc => (label.name_plain c hc).2, readPlace_bare label⟩
  | wide _ w ds text =>
    obtain ⟨rfl, bounds⟩ := proper
    refine ⟨Label.sequence.name ++ ':' :: ds, by simp, ?_, readPlace_wide text bounds⟩
    intro c hc
    rcases List.mem_append.mp hc with name | rest
    · exact (Label.sequence.name_plain c name).2
    · rcases List.mem_cons.mp rest with rfl | digit
      · rfl
      · exact text.plain c digit

/-! ## One step of reading -/

theorem parseFrom_plain {p : Nat} {c : Char} {rest : List Char} (plain : isBrace c = false) :
    parseFrom p (c :: rest) = (parseFrom (p + 1) rest).map (consChar c) := by
  simp only [isBrace, Bool.or_eq_false_iff, beq_eq_false_iff_ne, ne_eq] at plain
  rw [parseFrom, if_neg plain.2, if_neg plain.1]

/-- A place is read off the front as a whole. -/
theorem parseFrom_place {p : Nat} {body rest : List Char}
    (plain : ∀ c ∈ body, isBrace c = false) :
    parseFrom p ('\x7b' :: body ++ '\x7d' :: rest) =
      match readPlace body with
      | .error f => .error f
      | .ok t => (parseFrom (p + body.length + 2) rest).map (t :: ·) := by
  have noClose : '\x7d' ∉ body := fun h => by simpa [isBrace] using plain _ h
  have noOpen : '\x7b' ∉ body := fun h => by simpa [isBrace] using plain _ h
  obtain ⟨front, back⟩ := span_mark noClose rest
  rw [List.cons_append, parseFrom, if_neg (by decide), if_pos rfl]
  split
  · rename_i unclosed
    rw [back] at unclosed
    cases unclosed
  · rename_i closed
    rw [back] at closed
    obtain ⟨-, rfl⟩ := List.cons.inj closed
    cases placed : readPlace body <;> simp [front, noOpen, placed]

/-! ## Lists of pieces -/

theorem canonical_cons {t : Token} {ts : List Token} :
    Canonical (t :: ts) ↔
      t.Proper ∧ (t.isLiteral = true → ∀ u ∈ ts.head?, u.isLiteral = false) ∧ Canonical ts := by
  cases ts with
  | nil => simp [Canonical]
  | cons u ts => simp [Canonical]

theorem Canonical.proper {ts : List Token} (h : Canonical ts) : ∀ t ∈ ts, t.Proper := by
  induction ts with
  | nil => simp
  | cons t ts ih =>
    obtain ⟨proper, -, rest⟩ := canonical_cons.mp h
    exact List.forall_mem_cons.mpr ⟨proper, ih rest⟩

theorem canonical_consChar {c : Char} {ts : List Token} (plain : isBrace c = false)
    (h : Canonical ts) : Canonical (consChar c ts) := by
  unfold consChar
  split
  · rename_i text ts
    obtain ⟨proper, apart, rest⟩ := canonical_cons.mp h
    exact canonical_cons.mpr
      ⟨⟨List.cons_ne_nil _ _, List.forall_mem_cons.mpr ⟨plain, proper.2⟩⟩, apart, rest⟩
  · rename_i noLiteral
    refine canonical_cons.mpr ⟨⟨List.cons_ne_nil _ _, by simpa using plain⟩, ?_, h⟩
    intro _ u hu
    cases u with
    | place => rfl
    | literal text =>
      obtain ⟨rest, rfl⟩ := List.head?_eq_some_iff.mp hu
      exact absurd rfl (noLiteral text rest)

theorem spells_consChar {c : Char} {ts : List Token} {rest : List Char} (h : Spells ts rest) :
    Spells (consChar c ts) (c :: rest) := by
  unfold consChar
  split
  · cases h with
    | cons first rest =>
      cases first with
      | literal => exact .cons (.literal _) rest
  · exact .cons (.literal [c]) h

/-- In front of anything but a literal, a run of characters becomes a literal of its own. -/
theorem foldr_consChar {text : List Char} {ts : List Token} (nonempty : text ≠ [])
    (apart : ∀ u ∈ ts.head?, u.isLiteral = false) :
    text.foldr consChar ts = .literal text :: ts := by
  induction text with
  | nil => exact absurd rfl nonempty
  | cons c text ih =>
    rw [List.foldr_cons]
    cases text with
    | nil =>
      rw [List.foldr_nil]
      unfold consChar
      split
      · simp [Token.isLiteral] at apart
      · rfl
    | cons d text =>
      rw [ih (List.cons_ne_nil _ _)]
      rfl

/-! ## Whole texts -/

theorem parseFrom_text {text : List Char} (plain : ∀ c ∈ text, isBrace c = false) (p : Nat)
    (rest : List Char) :
    parseFrom p (text ++ rest) =
      (parseFrom (p + text.length) rest).map (text.foldr consChar ·) := by
  induction text generalizing p with
  | nil => cases h : parseFrom p rest <;> simp [h, Except.map]
  | cons c text ih =>
    obtain ⟨first, others⟩ := List.forall_mem_cons.mp plain
    have place : p + 1 + text.length = p + (c :: text).length := by
      rw [List.length_cons]
      omega
    rw [List.cons_append, parseFrom_plain first, ih others, place]
    cases parseFrom (p + (c :: text).length) rest <;> rfl

/-- What is read is canonical, and the text spells it. -/
theorem parseFrom_sound {p : Nat} {cs : List Char} {ts : List Token}
    (h : parseFrom p cs = .ok ts) : Canonical ts ∧ Spells ts cs := by
  fun_induction parseFrom p cs generalizing ts with
  | case1 =>
    cases h
    exact ⟨trivial, .nil⟩
  | case2 => cases h
  | case3 => cases h
  | case4 => cases h
  | case5 => cases h
  | case6 _ rest x after closed body =>
    rename_i read _ ih
    obtain ⟨us, hus, rfl⟩ := map_eq_ok_iff.mp h
    obtain ⟨canonical, spells⟩ := ih hus
    obtain ⟨proper, place, text⟩ := readPlace_spells read
    have close : x = '\x7d' := by
      have := List.head?_dropWhile_not (· != '\x7d') rest
      rw [closed] at this
      simpa using this
    have whole : body ++ '\x7d' :: after = rest := by
      rw [← close, ← closed, List.takeWhile_append_dropWhile]
    refine ⟨canonical_cons.mpr ⟨proper, by simp [place], canonical⟩, ?_⟩
    rw [← whole]
    simpa using Spells.cons text spells
  | case7 p c rest noClose noOpen ih =>
    obtain ⟨us, hus, rfl⟩ := map_eq_ok_iff.mp h
    obtain ⟨canonical, spells⟩ := ih hus
    exact ⟨canonical_consChar (by simp [isBrace, noClose, noOpen]) canonical,
      spells_consChar spells⟩

/-- Every spelling of a canonical list is read as that list. -/
theorem parseFrom_of_spells {ts : List Token} {cs : List Char} (h : Spells ts cs) :
    ∀ p, Canonical ts → parseFrom p cs = .ok ts := by
  induction h with
  | nil =>
    intro p _
    rw [parseFrom]
  | @cons t ts a b spells _ ih =>
    intro p canonical
    obtain ⟨proper, apart, rest⟩ := canonical_cons.mp canonical
    cases t with
    | literal text =>
      cases spells
      rw [parseFrom_text proper.2, ih _ rest]
      exact congrArg Except.ok (foldr_consChar proper.1 (apart rfl))
    | place label width =>
      obtain ⟨body, rfl, plain, read⟩ := readPlace_of_spells proper spells
      have whole : '\x7b' :: body ++ ['\x7d'] ++ b = '\x7b' :: body ++ '\x7d' :: b := by simp
      rw [whole, parseFrom_place plain, read]
      dsimp only
      rw [ih _ rest]
      rfl

/-! ## The plain spelling -/

theorem widthText_digits {w : Nat} (h : w ≤ maxWidth) : WidthText w (Text.digits w) := by
  refine ⟨List.all_eq_true.mp (Text.all_isDigit_digits w), ?_, Text.value_digits w⟩
  have two := Text.length_digits_le (w := 2) (n := w) (by decide)
    (Nat.lt_of_le_of_lt h (by decide))
  have one := List.length_pos_iff.mpr (Text.digits_ne_nil w)
  omega

theorem spells_spelling {ts : List Token} (h : ∀ t ∈ ts, t.Proper) : Spells ts (spelling ts) := by
  induction ts with
  | nil => exact .nil
  | cons t ts ih =>
    obtain ⟨proper, others⟩ := List.forall_mem_cons.mp h
    refine .cons ?_ (ih others)
    match t, proper with
    | .literal text, _ => exact .literal text
    | .place label none, _ => exact .bare label
    | .place label (some w), ⟨_, _, bound⟩ => exact .wide label w _ (widthText_digits bound)

/-! ## Places -/

def Prints (ts : List Token) (label : Label) : Prop :=
  ∃ w, Token.place label w ∈ ts

def PlacesProper (ts : List Token) : Prop :=
  ∀ label w, Token.place label w ∈ ts → (Token.place label w).Proper

theorem parse_proper {cs : List Char} {ts : List Token} (h : parse cs = .ok ts) :
    PlacesProper ts :=
  fun _ _ => (parseFrom_sound h).1.proper _

/-! ## The grammar -/

/-- Reading gives the one canonical list that the text spells, and refuses a text that spells none.
The plain spelling of a canonical list is among its spellings. -/
theorem parse_eq_ok_iff :
    (∀ (cs : List Char) (ts : List Token), parse cs = .ok ts ↔ Canonical ts ∧ Spells ts cs) ∧
    (∀ cs : List Char, (∃ f, parse cs = .error f) ↔ ∀ ts, Canonical ts → ¬Spells ts cs) ∧
    ∀ ts : List Token, Canonical ts → parse (spelling ts) = .ok ts := by
  have accepts (cs : List Char) (ts : List Token) :
      parse cs = .ok ts ↔ Canonical ts ∧ Spells ts cs :=
    ⟨parseFrom_sound, fun ⟨canonical, spells⟩ => parseFrom_of_spells spells 0 canonical⟩
  refine ⟨accepts, ?_, ?_⟩
  · intro cs
    constructor
    · rintro ⟨f, refused⟩ ts canonical spells
      rw [(accepts cs ts).mpr ⟨canonical, spells⟩] at refused
      cases refused
    · intro none
      cases hp : parse cs with
      | error f => exact ⟨f, rfl⟩
      | ok ts =>
        obtain ⟨canonical, spells⟩ := (accepts cs ts).mp hp
        exact absurd spells (none ts canonical)
  · intro ts canonical
    exact (accepts _ ts).mpr ⟨canonical, spells_spelling canonical.proper⟩

/-- A width with a leading zero is read as its value and spelt plainly without the zero; a width on
another label spells nothing. -/
theorem parse_eq_ok_iff_leadingZero :
    let ts : List Token := [.place .department none, .literal ['-'], .place .sequence (some 4)]
    Canonical ts ∧ parse "\x7bdepartment\x7d-\x7bseq:04\x7d".toList = .ok ts ∧
      parse (spelling ts) = .ok ts ∧
      ∀ us, Canonical us → ¬Spells us "\x7bdepartment:4\x7d".toList := by
  intro ts
  obtain ⟨accepts, refuses, plain⟩ := parse_eq_ok_iff
  have canonical : Canonical ts := by decide
  have zero : WidthText 4 ['0', '4'] := by decide
  have spells : Spells ts "\x7bdepartment\x7d-\x7bseq:04\x7d".toList :=
    .cons (.bare .department) (.cons (.literal ['-']) (.cons (.wide .sequence 4 _ zero) .nil))
  refine ⟨canonical, (accepts _ ts).mpr ⟨canonical, spells⟩, plain ts canonical, ?_⟩
  exact (refuses _).mp ⟨.widthNotAccepted .department, by decide +kernel⟩

end DocNumber.Template
