import DocNumber.Proofs.Template.Text

/-!
Templates written one after the other. Once the first has been read, reading goes on as it would at
the start of the second, only further on (`parseFrom_append`): the pieces follow one another, the
literals at the seam being one, and a fault in the second keeps its kind.
-/

namespace DocNumber.Template

variable {ts us : List Token} {cs : List Char}

/-! ## Faults further on -/

/-- What is wrong between braces has no place. -/
theorem shift_of_readPlace {body : List Char} {f : Fault} (h : readPlace body = .error f)
    (n : Nat) : f.shift n = f := by
  cases f with
  | unbalanced p | unclosed p | nested p =>
    simp only [readPlace] at h
    grind
  | _ => rfl

theorem parseFrom_unclosed {p : Nat} {rest : List Char}
    (h : rest.dropWhile (· != '\x7d') = []) :
    parseFrom p ('\x7b' :: rest) = .error (.unclosed p) := by
  rw [parseFrom, if_neg (by decide), if_pos rfl]
  split
  · rfl
  · rename_i closed
    rw [h] at closed
    cases closed

theorem parseFrom_closed {p : Nat} {x : Char} {rest after : List Char}
    (h : rest.dropWhile (· != '\x7d') = x :: after) :
    parseFrom p ('\x7b' :: rest) =
      let body := rest.takeWhile (· != '\x7d')
      if body.contains '\x7b' then .error (.nested p)
      else match readPlace body with
        | .error f => .error f
        | .ok t => (parseFrom (p + body.length + 2) after).map (t :: ·) := by
  rw [parseFrom, if_neg (by decide), if_pos rfl]
  split
  · rename_i unclosed
    rw [h] at unclosed
    cases unclosed
  · rename_i closed
    rw [h] at closed
    obtain ⟨-, rfl⟩ := List.cons.inj closed
    rfl

/-- Where reading starts is seen in the places of faults only. -/
theorem parseFrom_shift (n p : Nat) (cs : List Char) :
    parseFrom (n + p) cs = (parseFrom p cs).mapError (Fault.shift n) := by
  fun_induction parseFrom p cs with
  | case1 =>
    rw [parseFrom]
    rfl
  | case2 =>
    rw [parseFrom, if_pos rfl]
    rfl
  | case3 p rest unclosed =>
    rw [parseFrom_unclosed unclosed]
    rfl
  | case4 p rest x after closed body nested =>
    rw [parseFrom_closed closed]
    exact if_pos nested
  | case5 p rest x after closed body plain _ f read =>
    rw [parseFrom_closed closed]
    dsimp only
    rw [if_neg plain, read]
    exact congrArg Except.error (shift_of_readPlace read n).symm
  | case6 p rest x after closed body plain _ t read _ ih =>
    rw [parseFrom_closed closed]
    dsimp only
    rw [if_neg plain, read, map_mapError, ← ih]
    dsimp only
    rw [Nat.add_assoc n, Nat.add_assoc n]
  | case7 p c rest noClose noOpen ih =>
    have plain : isBrace c = false := by simp [isBrace, noClose, noOpen]
    rw [parseFrom_plain plain, map_mapError, ← ih, Nat.add_assoc]

/-! ## Pieces of both -/

/-- One list of pieces and then another; literals that meet become one. -/
def join : List Token → List Token → List Token
  | [], us => us
  | [.literal a], .literal b :: us => .literal (a ++ b) :: us
  | t :: ts, us => t :: join ts us

theorem join_cons {t : Token} (h : t.isLiteral = true → ts ≠ []) (us : List Token) :
    join (t :: ts) us = t :: join ts us := by
  cases t with
  | place label w => rw [join]; simp
  | literal text =>
    cases ts with
    | nil => exact absurd rfl (h rfl)
    | cons u ts => rw [join]; simp

/-- A run of characters goes into the literal behind it. -/
theorem foldr_consChar_literal (text b : List Char) (us : List Token) :
    text.foldr consChar (.literal b :: us) = .literal (text ++ b) :: us := by
  induction text with
  | nil => rfl
  | cons c text ih =>
    rw [List.foldr_cons, ih]
    rfl

/-- A literal in front takes part in the seam as its characters do. -/
theorem join_literal {text : List Char} (nonempty : text ≠ [])
    (apart : ∀ u ∈ ts.head?, u.isLiteral = false) (us : List Token) :
    join (.literal text :: ts) us = text.foldr consChar (join ts us) := by
  cases ts with
  | cons t ts =>
    have place : t.isLiteral = false := apart t rfl
    rw [join_cons (by simp), join_cons (by simp [place]),
      foldr_consChar nonempty (by simpa using place)]
  | nil =>
    have start : join [] us = us := by rw [join]
    rw [start]
    match us with
    | [] =>
      rw [foldr_consChar nonempty (by simp)]
      simp [join]
    | .literal b :: us => rw [foldr_consChar_literal, join]
    | .place label w :: us =>
      rw [foldr_consChar nonempty (by simp [Token.isLiteral])]
      simp [join]

/-- Reading goes on behind a text that has been read, and its pieces come first. -/
theorem parseFrom_append (h : Spells ts cs) (rest : List Char) :
    ∀ p, Canonical ts →
      parseFrom p (cs ++ rest) = (parseFrom (p + cs.length) rest).map (join ts) := by
  induction h with
  | nil =>
    intro p _
    have same : join [] = id := by
      funext us
      rw [join, id]
    rw [same]
    cases h : parseFrom p rest <;> simp [h, Except.map]
  | @cons t ts a b spells _ ih =>
    intro p canonical
    obtain ⟨proper, apart, others⟩ := canonical_cons.mp canonical
    cases t with
    | literal text =>
      cases spells
      have joined : join (.literal a :: ts) = a.foldr consChar ∘ join ts :=
        funext (join_literal proper.1 (apart rfl))
      rw [List.append_assoc, parseFrom_text proper.2, ih _ others, map_map, joined,
        List.length_append, Nat.add_assoc]
    | place label width =>
      obtain ⟨body, rfl, plain, read⟩ := readPlace_of_spells proper spells
      have joined : join (.place label width :: ts) = (.place label width :: ·) ∘ join ts :=
        funext (join_cons (by simp [Token.isLiteral]))
      have whole : '\x7b' :: body ++ ['\x7d'] ++ b ++ rest =
          '\x7b' :: body ++ '\x7d' :: (b ++ rest) := by simp
      have place : p + body.length + 2 + b.length =
          p + ('\x7b' :: body ++ ['\x7d'] ++ b).length := by
        simp only [List.length_append, List.length_cons, List.length_nil]
        omega
      rw [whole, parseFrom_place plain, read]
      dsimp only
      rw [ih _ others, map_map, joined, place]

theorem parse_append (h : parse cs = .ok ts) (rest : List Char) :
    parse (cs ++ rest) = ((parse rest).mapError (Fault.shift cs.length)).map (join ts) := by
  obtain ⟨canonical, spells⟩ := parseFrom_sound h
  rw [parse, parseFrom_append spells rest 0 canonical, Nat.zero_add]
  exact congrArg (Except.map (join ts)) (parseFrom_shift cs.length 0 rest)

/-- Where literals meet the text does not change. -/
theorem renderTokens_join (ctx : Context) (ts us : List Token) :
    renderTokens ctx (join ts us) = renderTokens ctx (ts ++ us) := by
  fun_induction join ts us with
  | case1 us => rfl
  | case2 a b us =>
    cases h : renderTokens ctx us <;> simp [renderTokens, Token.render, h, Except.map]
  | case3 us t ts _ ih => rw [List.cons_append, renderTokens, renderTokens, ih]

theorem renderTokens_append_eq_ok_iff {ctx : Context} {text : List Char} :
    renderTokens ctx (ts ++ us) = .ok text ↔
      ∃ a b, renderTokens ctx ts = .ok a ∧ renderTokens ctx us = .ok b ∧ a ++ b = text := by
  rw [renderTokens_append]
  cases renderTokens ctx ts with
  | error f => simp
  | ok a => simp [map_eq_ok_iff]

/-- Behind a text that can be read, a second is read as it would be alone. The pieces are those of
the first and those of the second; what is wrong with the second is wrong with both, as much further
on as the first is long. What both print is what each prints, in a row. -/
theorem parse_append_iff (h : parse cs = .ok ts) (rest : List Char) :
    (∀ ws, parse (cs ++ rest) = .ok ws ↔ ∃ us, parse rest = .ok us ∧ join ts us = ws) ∧
    (∀ g, parse (cs ++ rest) = .error g ↔
      ∃ f, parse rest = .error f ∧ f.shift cs.length = g) ∧
    ∀ (ctx : Context) (text : List Char), render (cs ++ rest) ctx = .ok text ↔
      ∃ a b, render cs ctx = .ok a ∧ render rest ctx = .ok b ∧ a ++ b = text := by
  have whole := parse_append h rest
  cases hr : parse rest with
  | error f =>
    rw [hr] at whole
    simp [render, whole, hr, Except.map, Except.mapError]
  | ok us =>
    rw [hr] at whole
    refine ⟨?_, ?_, ?_⟩
    · simp [whole, Except.map, Except.mapError]
    · simp [whole, Except.map, Except.mapError]
    · intro ctx text
      have both : parse (cs ++ rest) = .ok (join ts us) := whole
      simp only [render, h, hr, both]
      rw [renderTokens_join, renderTokens_append_eq_ok_iff]

/-- Literals meet in the middle of a word; an open place in the second text is found behind the
nine characters of the first. -/
theorem parse_append_iff_serial :
    let cs := "\x7byear2\x7d/A".toList
    let ctx : Context := ⟨2025, 3, 7, 1, none, none⟩
    parse (cs ++ "B\x7bseq:2\x7d".toList) =
        .ok [.place .year2 none, .literal ['/', 'A', 'B'], .place .sequence (some 2)] ∧
      render (cs ++ "B\x7bseq:2\x7d".toList) ctx = .ok "25/AB07".toList ∧
      parse (cs ++ "B\x7bseq".toList) = .error (.unclosed 10) := by
  intro cs ctx
  have first : parse cs = .ok [.place .year2 none, .literal ['/', 'A']] := by decide +kernel
  obtain ⟨pieces, -, printed⟩ := parse_append_iff first "B\x7bseq:2\x7d".toList
  obtain ⟨-, refused, -⟩ := parse_append_iff first "B\x7bseq".toList
  refine ⟨(pieces _).mpr ⟨[.literal ['B'], .place .sequence (some 2)], by decide +kernel, rfl⟩,
    (printed ctx _).mpr ⟨"25/A".toList, "B07".toList, by decide +kernel, by decide +kernel, rfl⟩,
    (refused _).mpr ⟨.unclosed 1, by decide +kernel, rfl⟩⟩

end DocNumber.Template
