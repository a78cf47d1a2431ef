import DocNumber.Proofs.Calendar.Reading
import DocNumber.Proofs.Json.Spelling
import DocNumber.Proofs.Seed.Reading

/-!
Drafts written as rows of a seed file, in any of the spellings that a row leaves open: the codes
as a list or as the text of one, and three ways to have no last day. Reading gives back what was
written.
-/

namespace DocNumber.Seed

open Calendar

/-- The codes as a list, or as its text. -/
inductive TypesWritten (types : List String) : Json → Prop
  | list : TypesWritten types (textsJson types)
  | text {cs : List Char} (spelt : Json.SpeltTexts types cs) :
      TypesWritten types (.text (String.ofList cs))

/-- A last day, or none: null, an empty text or nothing at all. -/
inductive LastWritten : Option Day → Option Json → Prop
  | null : LastWritten none (some .null)
  | empty : LastWritten none (some (.text ""))
  | missing : LastWritten none none
  | day (d : Day) : LastWritten (some d) (some (.text d.text))

/-- The row has the fields of the draft. Whatever else it has does not matter. -/
structure Written (d : Draft) (row : Json.Members) : Prop where
  name : Json.Members.find? row "rule_name" = some (.text d.name)
  template : Json.Members.find? row "template" = some (.text d.template)
  digits : Json.Members.find? row "sequence_digits" = some (.int d.digits)
  department : Json.Members.find? row "department_code" = some (textJson d.department)
  types : ∃ v, Json.Members.find? row "document_type_codes" = some v ∧ TypesWritten d.types v
  first : Json.Members.find? row "effective_from" = some (.text d.window.first.text)
  last : LastWritten d.window.last (Json.Members.find? row "effective_until")
  priority : Json.Members.find? row "priority" = some (.int d.priority)

theorem readDay_text (field rule : String) (d : Day) :
    readDay field rule (.text d.text) = .ok (some d) := by
  have read := readWritten?_text d
  unfold readDay
  split
  · rename_i same
    cases same
  · rename_i same
    rw [Json.text.inj same] at read
    cases read
  · simp only [Json.plain, read]

theorem readDay_last (rule : String) {last : Option Day} {row : Json.Members}
    (h : LastWritten last (Json.Members.find? row "effective_until")) :
    readDay "effective_until" rule (get row "effective_until" .null) = .ok last := by
  unfold get
  generalize Json.Members.find? row "effective_until" = found at h
  cases h with
  | null | empty | missing => rfl
  | day d => exact readDay_text _ _ d

theorem readTypes_written (room : Nat) (rule : String) {types : List String} {v : Json}
    (h : TypesWritten types v) : readTypes room rule v = .ok types := by
  have plain : (types.map Json.text).map Json.plain = types := by
    rw [List.map_map]
    exact List.map_id types
  cases h with
  | list => exact congrArg Except.ok plain
  | text spelt => simp only [readTypes, Json.read_spelt spelt room, plain]

/-- A row gives back the draft it was written for. -/
theorem readMembers_written (room : Nat) {d : Draft} {row : Json.Members} (h : Written d row) :
    readMembers room row = .ok d := by
  obtain ⟨v, found, types⟩ := h.types
  have name : (get row "rule_name" (.text "")).plain = d.name := by
    simp only [get, h.name, Option.getD_some, Json.plain]
  have first : get row "effective_from" .null = .text d.window.first.text := by
    simp only [get, h.first, Option.getD_some]
  have codes : get row "document_type_codes" (.list []) = v := by
    simp only [get, found, Option.getD_some]
  have department : Fields.nullable Fields.readText (textJson d.department) =
      .ok d.department := by
    cases d.department <;> rfl
  have drafted : draft d.name row d.types d.window.first d.window.last = .ok d := by
    simp only [draft, get, h.template, h.digits, h.department, h.priority, Option.getD_some,
      department]
    rfl
  simp only [readMembers, name, first, codes, readDay_text, readTypes_written room _ types,
    readDay_last _ h.last, drafted, bind, Except.bind, Except.mapError]

/-- Seed files round-trip: rows that are written for drafts, each in a spelling of its own, are
read as these drafts, in order, however little room is left to nest in. -/
theorem readPayload_written (room : Nat) {ds : List Draft} {rows : List Json.Members}
    (written : List.Forall₂ Written ds rows) {payload : Json.Members}
    (listed : Json.Members.find? payload "data" = some (.list (rows.map .object))) :
    readPayload room (.object payload) = .ok ds := by
  refine readPayload_ok_iff.mpr ⟨payload, rows.map .object, rfl, listed, ?_⟩
  rw [List.forall₂_map_left_iff]
  apply List.Forall₂.flip
  exact written.imp fun _ _ h => readMembers_written room h

/-- A code with a quote, a backslash, a line feed and a character beyond the basic plane, once in a
list and once in its text, and days of the first century. -/
theorem readPayload_written_mixed :
    let day : Day := ⟨33, 4, 3, by decide⟩
    let code := "\"\\\n😀"
    let listed : Draft := ⟨"A", "\x7bseq\x7d", 3, none, [code], ⟨day, none⟩, 0⟩
    let spelt : Draft := ⟨"B", "\x7bseq\x7d", -1, some "T", [code], ⟨day, some day⟩, -5⟩
    let rows : List Json.Members :=
      [[("rule_name", .text "A"), ("template", .text "\x7bseq\x7d"), ("sequence_digits", .int 3),
          ("department_code", .null), ("document_type_codes", textsJson [code]),
          ("effective_from", .text "0033-04-03"), ("priority", .int 0)],
        [("priority", .int (-5)), ("effective_until", .text "0033-04-03"),
          ("effective_from", .text "0033-04-03"),
          ("document_type_codes", .text "[ \"\\\"\\\\\\u000A\\ud83d\\uDE00\" ]"),
          ("department_code", .text "T"), ("sequence_digits", .int (-1)),
          ("template", .text "\x7bseq\x7d"), ("rule_name", .text "B")]]
    List.Forall₂ Written [listed, spelt] rows ∧
      readPayload Depths.usual.codes (.object [("data", .list (rows.map .object))]) =
        .ok [listed, spelt] := by
  intro day code listed spelt rows
  have feed : Json.SpeltChar '\n' "\\u000A".toList :=
    .code (@Json.HexFour.digits ('0', 0) ('0', 0) ('0', 0) ('A', 10) (by decide) (by decide)
      (by decide) (by decide))
  have high : Json.HexFour 0xD83D "d83d".toList :=
    @Json.HexFour.digits ('d', 13) ('8', 8) ('3', 3) ('d', 13) (by decide) (by decide) (by decide)
      (by decide)
  have low : Json.HexFour 0xDE00 "DE00".toList :=
    @Json.HexFour.digits ('D', 13) ('E', 14) ('0', 0) ('0', 0) (by decide) (by decide) (by decide)
      (by decide)
  have quote : Json.SpeltChar '"' "\\\"".toList := .short (by decide)
  have backslash : Json.SpeltChar '\\' "\\\\".toList := .short (by decide)
  have halves : 0xD83D = 0xD800 + ('😀'.toNat - 0x10000) / 0x400 ∧
      0xDE00 = 0xDC00 + ('😀'.toNat - 0x10000) % 0x400 := by decide
  have smile : Json.SpeltChar '😀' "\\ud83d\\uDE00".toList := by
    rw [halves.1] at high
    rw [halves.2] at low
    exact .pair (by decide) high low
  have characters : List.Forall₂ Json.SpeltChar code.toList
      ["\\\"".toList, "\\\\".toList, "\\u000A".toList, "\\ud83d\\uDE00".toList] := by
    rw [show code.toList = ['"', '\\', '\n', '😀'] by decide +kernel]
    exact .cons quote (.cons backslash (.cons feed (.cons smile .nil)))
  have text : Json.SpeltTexts [code] "[ \"\\\"\\\\\\u000A\\ud83d\\uDE00\" ]".toList := by
    have none : Json.Blank [] := by simp [Json.Blank]
    have space : Json.Blank [' '] := by simp [Json.Blank]
    have items : Json.SpeltItems [code] _ := .last ⟨_, characters, rfl⟩ space
    exact .items none space none items
  have first : some (Json.text "0033-04-03") = some (.text day.text) :=
    congrArg (fun s => some (Json.text s)) (by decide +kernel)
  have last : LastWritten (some day) (some (.text "0033-04-03")) := by
    rw [first]
    exact .day day
  have whole : Written listed rows[0] :=
    { name := rfl, template := rfl, digits := rfl, department := rfl, types := ⟨_, rfl, .list⟩,
      first := first, last := .missing, priority := rfl }
  have mixed : Written spelt rows[1] :=
    { name := rfl, template := rfl, digits := rfl, department := rfl,
      types := ⟨_, rfl, by simpa only [String.ofList_toList] using TypesWritten.text text⟩,
      first := first, last := last, priority := rfl }
  have written : List.Forall₂ Written [listed, spelt] rows := .cons whole (.cons mixed .nil)
  exact ⟨written, readPayload_written _ written rfl⟩

end DocNumber.Seed
