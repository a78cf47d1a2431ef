import DocNumber.Seed.Command
import Mathlib.Data.List.Forall2

/-!
Reading a seed file. Whatever it holds, it gives one draft for each row, in order, or a fault that
is reported, save where something else stands in the place of an object, or values nest too deep:
in the whole file, or in the first row that is not read (`Unforeseen`). Only there the command does
not end as it should.
-/

namespace DocNumber.Seed

/-- The first day of a row can be read, and its codes are a text in which values nest too deep. -/
structure DeepCodes (room : Nat) (ms : Json.Members) : Prop where
  first : ∃ day, readDay "effective_from" (get ms "rule_name" (.text "")).plain
    (get ms "effective_from" .null) = .ok (some day)
  codes : ∃ s inObject, get ms "document_type_codes" (.list []) = .text s ∧
    Json.read room s = .error (.tooDeep inObject)

/-- A row that is no object, or has codes that nest too deep. -/
inductive StrayRow (room : Nat) : Json → Prop
  | shape {row : Json} (shape : Shape.ofJson row ≠ .object) : StrayRow room row
  | codes {ms : Json.Members} (deep : DeepCodes room ms) : StrayRow room (.object ms)

/-- The value is no object, or of its rows the first that is not read has gone astray. -/
inductive Unforeseen (room : Nat) : Json → Prop
  | whole {v : Json} (shape : Shape.ofJson v ≠ .object) : Unforeseen room v
  | row {ms : Json.Members} {before after : List Json} {row : Json}
      (listed : Json.Members.find? ms "data" = some (.list (before ++ row :: after)))
      (read : ∀ r ∈ before, ∃ d, readRow room r = .ok d) (stray : StrayRow room row) :
      Unforeseen room (.object ms)

variable {room : Nat}

/-! ## One row -/

theorem readDay_foreseen {field rule : String} {v : Json} {f : Fault}
    (h : readDay field rule v = .error f) : f.isCrash = false := by
  unfold readDay at h
  split at h
  · cases h
  · cases h
  · split at h
    · cases h
    · obtain rfl := Except.error.inj h
      rfl

theorem readTypes_deep {s : String} {inObject : Bool}
    (deep : Json.read room s = .error (.tooDeep inObject)) (rule : String) :
    readTypes room rule (.text s) = .error (.unread (.tooDeep inObject)) := by
  simp only [readTypes, deep]

theorem readTypes_crash {rule : String} {v : Json} {f : Fault}
    (h : readTypes room rule v = .error f) (crash : f.isCrash = true) :
    ∃ s inObject, v = .text s ∧ Json.read room s = .error (.tooDeep inObject) := by
  unfold readTypes at h
  dsimp only at h
  split at h
  · split at h
    · obtain rfl := Except.error.inj h
      cases crash
    · rename_i s _ halt _ halted
      obtain rfl := Except.error.inj h
      cases halt with
      | tooDeep inObject => exact ⟨s, inObject, rfl, halted⟩
      | malformed | longInt => cases crash
    · split at h
      · cases h
      · obtain rfl := Except.error.inj h
        cases crash
  · split at h
    · cases h
    · obtain rfl := Except.error.inj h
      cases crash

/-- Every fault of a field is one that is reported, unless it lies too deep. -/
theorem readMembers_crash_iff {ms : Json.Members} {f : Fault}
    (h : readMembers room ms = .error f) : f.isCrash = true ↔ DeepCodes room ms := by
  unfold readMembers at h
  simp only [bind, Except.bind] at h
  have quiet (reported : f.isCrash = false) (read : ¬DeepCodes room ms) :
      f.isCrash = true ↔ DeepCodes room ms := iff_of_false (by simp [reported]) read
  split at h
  · rename_i failed
    obtain rfl := Except.error.inj h
    refine quiet (readDay_foreseen failed) ?_
    rintro ⟨⟨day, first⟩, -⟩
    cases failed.symm.trans first
  · rename_i found start
    split at h
    · obtain rfl := Except.error.inj h
      refine quiet rfl ?_
      rintro ⟨⟨day, first⟩, -⟩
      cases start.symm.trans first
    · rename_i first
      split at h
      · rename_i failed
        obtain rfl := Except.error.inj h
        constructor
        · intro crash
          exact ⟨⟨first, start⟩, readTypes_crash failed crash⟩
        · rintro ⟨-, s, inObject, same, deep⟩
          rw [same, readTypes_deep deep] at failed
          obtain rfl := Except.error.inj failed
          rfl
      · rename_i types read
        have shallow : ¬DeepCodes room ms := by
          rintro ⟨-, s, inObject, same, deep⟩
          rw [same, readTypes_deep deep] at read
          cases read
        split at h
        · rename_i failed
          obtain rfl := Except.error.inj h
          exact quiet (readDay_foreseen failed) shallow
        · rename_i last _
          cases hd : draft (get ms "rule_name" (.text "")).plain ms types first last with
          | ok d => simp [hd, Except.mapError] at h
          | error found =>
            simp only [hd, Except.mapError] at h
            obtain rfl := Except.error.inj h
            exact quiet rfl shallow

theorem readRow_crash_iff {row : Json} {f : Fault} (h : readRow room row = .error f) :
    f.isCrash = true ↔ StrayRow room row := by
  cases row with
  | object ms =>
    refine (readMembers_crash_iff h).trans ⟨.codes, ?_⟩
    rintro (shape | deep)
    · exact absurd rfl shape
    · exact deep
  | null | bool | int | real | text | list =>
    obtain rfl := Except.error.inj h
    exact iff_of_true rfl (.shape (by simp [Shape.ofJson]))

/-- A row that has gone astray is not read. -/
theorem StrayRow.unread {row : Json} (h : StrayRow room row) :
    ∃ f, readRow room row = .error f := by
  cases hr : readRow room row with
  | error f => exact ⟨f, rfl⟩
  | ok d =>
    exfalso
    cases h with
    | shape shape =>
      cases row with
      | object ms => exact shape rfl
      | null | bool | int | real | text | list => cases hr
    | @codes ms deep =>
      obtain ⟨⟨day, first⟩, s, inObject, same, nested⟩ := deep
      simp [readRow, readMembers, bind, Except.bind, first, same, readTypes_deep nested] at hr

/-! ## All rows -/

theorem readRows_ok_iff {rows : List Json} {ds : List Draft} :
    readRows room rows = .ok ds ↔ List.Forall₂ (fun row d => readRow room row = .ok d) rows ds := by
  induction rows generalizing ds with
  | nil =>
    rw [List.forall₂_nil_left_iff, readRows]
    simp [eq_comm]
  | cons row rows ih =>
    rw [List.forall₂_cons_left_iff, readRows]
    cases hr : readRow room row with
    | error f => simp
    | ok d =>
      simp only [← ih]
      cases readRows room rows with
      | error f => simp [Except.map]
      | ok rest => simp [Except.map, eq_comm]

/-- The reading of rows stops at the first that cannot be read. -/
theorem readRows_error_iff {rows : List Json} {f : Fault} :
    readRows room rows = .error f ↔ ∃ before row after, rows = before ++ row :: after ∧
      (∀ r ∈ before, ∃ d, readRow room r = .ok d) ∧ readRow room row = .error f := by
  induction rows with
  | nil => simp [readRows]
  | cons row rows ih =>
    rw [readRows]
    constructor
    · intro h
      cases hr : readRow room row with
      | error g =>
        obtain rfl : g = f := by simpa [hr] using h
        exact ⟨[], row, rows, rfl, by simp, hr⟩
      | ok d =>
        have rest : readRows room rows = .error f := by
          cases hs : readRows room rows with
          | error g => simpa [hr, hs, Except.map] using h
          | ok ds => simp [hr, hs, Except.map] at h
        obtain ⟨before, other, after, rfl, read, failed⟩ := ih.mp rest
        refine ⟨row :: before, other, after, rfl, ?_, failed⟩
        intro r hr'
        rcases List.mem_cons.mp hr' with rfl | later
        · exact ⟨d, hr⟩
        · exact read r later
    · rintro ⟨before, other, after, split, read, failed⟩
      cases before with
      | nil =>
        obtain ⟨rfl, rfl⟩ := List.cons.inj split
        simp [failed]
      | cons first before =>
        rw [List.cons_append] at split
        obtain ⟨rfl, rfl⟩ := List.cons.inj split
        obtain ⟨d, hd⟩ := read row List.mem_cons_self
        have rest := ih.mpr ⟨before, other, after, rfl,
          fun r hr => read r (List.mem_cons_of_mem _ hr), failed⟩
        simp [hd, rest, Except.map]

/-! ## A whole payload -/

theorem readPayload_ok_iff {payload : Json} {ds : List Draft} :
    readPayload room payload = .ok ds ↔ ∃ ms rows, payload = .object ms ∧
      Json.Members.find? ms "data" = some (.list rows) ∧
      List.Forall₂ (fun row d => readRow room row = .ok d) rows ds := by
  cases payload with
  | object ms =>
    simp only [← readRows_ok_iff, readPayload]
    split
    · rename_i rows listed
      simp [listed]
    · rename_i other
      constructor
      · intro h
        cases h
      · rintro ⟨_, rows, same, listed, -⟩
        cases same
        exact absurd listed (other rows)
  | null | bool | int | real | text | list => simp [readPayload]

theorem readPayload_of_unforeseen {payload : Json} (h : Unforeseen room payload) :
    ∃ f, readPayload room payload = .error f ∧ f.isCrash = true := by
  cases h with
  | whole shape =>
    cases payload with
    | object ms => exact absurd rfl shape
    | null | bool | int | real | text | list => exact ⟨_, rfl, rfl⟩
  | row listed read stray =>
    obtain ⟨f, failed⟩ := stray.unread
    simp only [readPayload, listed]
    exact ⟨f, readRows_error_iff.mpr ⟨_, _, _, rfl, read, failed⟩,
      (readRow_crash_iff failed).mpr stray⟩

theorem unforeseen_of_crash {payload : Json} {f : Fault}
    (h : readPayload room payload = .error f) (crash : f.isCrash = true) :
    Unforeseen room payload := by
  cases payload with
  | object ms =>
    simp only [readPayload] at h
    split at h
    · rename_i rows listed
      obtain ⟨before, row, after, rfl, read, failed⟩ := readRows_error_iff.mp h
      exact .row listed read ((readRow_crash_iff failed).mp crash)
    · obtain rfl := Except.error.inj h
      cases crash
  | null | bool | int | real | text | list => exact .whole (by simp [Shape.ofJson])

/-- What is unforeseen in a payload is the crash that reading it ends with. -/
theorem unforeseen_iff {payload : Json} :
    Unforeseen room payload ↔ ∃ f, readPayload room payload = .error f ∧ f.isCrash = true :=
  ⟨readPayload_of_unforeseen, fun ⟨_, failed, crash⟩ => unforeseen_of_crash failed crash⟩

/-! ## A whole text -/

/-- A text is JSON that nests too deep, or that of a value with something unforeseen in it. -/
inductive UnforeseenText (depths : Depths) (text : String) : Prop
  | deep {inObject : Bool}
      (deep : Json.read depths.file (plainText text) = .error (.tooDeep inObject)) :
      UnforeseenText depths text
  | value {v : Json} (read : Json.read depths.file (plainText text) = .ok v)
      (unforeseen : Unforeseen depths.codes v) : UnforeseenText depths text

variable {depths : Depths} {text : String}

theorem readContent_ok_iff {ds : List Draft} :
    readContent depths text = .ok ds ↔ ∃ ms rows,
      Json.read depths.file (plainText text) = .ok (.object ms) ∧
      Json.Members.find? ms "data" = some (.list rows) ∧
      List.Forall₂ (fun row d => readRow depths.codes row = .ok d) rows ds := by
  rw [readContent]
  cases Json.read depths.file (plainText text) with
  | ok v => simp [readPayload_ok_iff]
  | error h => simp

/-- Reading a text crashes on what is unforeseen in it. -/
theorem readContent_crash_iff :
    UnforeseenText depths text ↔
      ∃ f, readContent depths text = .error f ∧ f.isCrash = true := by
  rw [readContent]
  cases read : Json.read depths.file (plainText text) with
  | ok v =>
    refine Iff.trans ⟨?_, .value read⟩ unforeseen_iff
    rintro (deep | ⟨same, unforeseen⟩)
    · cases read.symm.trans deep
    · obtain rfl := Except.ok.inj (read.symm.trans same)
      exact unforeseen
  | error h =>
    have unheld : UnforeseenText depths text → ∃ inObject, h = .tooDeep inObject := by
      rintro (deep | same)
      · exact ⟨_, Except.error.inj (read.symm.trans deep)⟩
      · cases read.symm.trans same
    cases h with
    | tooDeep inObject => exact iff_of_true (.deep read) ⟨_, rfl, rfl⟩
    | malformed | longInt => exact iff_of_false (by simpa using unheld) (by simp [Fault.isCrash])

theorem readContent_foreseen_iff :
    ¬UnforeseenText depths text ↔
      (∃ ds, readContent depths text = .ok ds) ∨
        ∃ f, readContent depths text = .error f ∧ f.isCrash = false := by
  rw [readContent_crash_iff]
  cases readContent depths text with
  | ok ds => simp
  | error f => cases crash : f.isCrash <;> simp [crash]

/-! ## A whole file -/

/-- The text that a file holds, where it is UTF-8. -/
def text? (content : Except FileFault (List Nat)) : Option String :=
  match content with
  | .error _ => none
  | .ok bytes =>
    match Text.Utf8.decode bytes with
    | .error _ => none
    | .ok cs => some (String.ofList cs)

def UnforeseenIn (depths : Depths) (content : Except FileFault (List Nat)) : Prop :=
  ∃ text, text? content = some text ∧ UnforeseenText depths text

/-- The ways in which the reading of a file ends. -/
inductive Loaded (depths : Depths) (content : Except FileFault (List Nat)) :
    Except Crash (Except Ending (List Draft)) → Prop
  | drafts {ds} (foreseen : ¬UnforeseenIn depths content) : Loaded depths content (.ok (.ok ds))
  | reported {ending} (status : ending.status = 1) (foreseen : ¬UnforeseenIn depths content) :
      Loaded depths content (.ok (.error ending))
  | crashed {crash} (unforeseen : UnforeseenIn depths content) :
      Loaded depths content (.error crash)

theorem load_ends (depths : Depths) (path : String) (content : Except FileFault (List Nat)) :
    Loaded depths content (load depths path content) := by
  unfold load
  split
  · exact .reported rfl (by simp [UnforeseenIn, text?])
  · rename_i bytes
    split
    · rename_i bad
      exact .reported rfl (by simp [UnforeseenIn, text?, bad])
    · rename_i cs decoded
      have holds : UnforeseenIn depths (.ok bytes) ↔
          ∃ f, readContent depths (String.ofList cs) = .error f ∧ f.isCrash = true := by
        simp [UnforeseenIn, text?, decoded, readContent_crash_iff]
      cases hr : readContent depths (String.ofList cs) with
      | ok ds => exact .drafts (by simp [holds, hr])
      | error f =>
        have crash : UnforeseenIn depths (.ok bytes) ↔ f.isCrash = true := by simp [holds, hr]
        cases f with
        | notObject found => exact .crashed (crash.mpr rfl)
        | unread h =>
          cases h with
          | tooDeep inObject => exact .crashed (crash.mpr rfl)
          | malformed | longInt => exact .reported rfl (by simp [crash, Fault.isCrash])
        | noRows | noStart | unreadableDay | unreadableTypes | typesNotList | invalidRow =>
          exact .reported rfl (by simp [crash, Fault.isCrash])

/-- A dry run ends with a status of zero or one, where reading ends; it never touches the store. -/
theorem dry_run_ends_iff (depths : Depths) (path : String)
    (content : Except FileFault (List Nat)) (e : Store.Engine) (url : Option String)
    (s : Store.State) :
    (carryOut depths ⟨path, true⟩ content e url s).2 = s ∧
      ((∃ ending, (carryOut depths ⟨path, true⟩ content e url s).1 = .ok ending ∧
          (ending.status = 0 ∨ ending.status = 1)) ↔ ¬UnforeseenIn depths content) := by
  have ends := load_ends depths path content
  unfold carryOut
  dsimp only
  generalize load depths path content = loaded at ends
  cases ends with
  | drafts foreseen => exact ⟨rfl, iff_of_true ⟨_, rfl, .inl rfl⟩ foreseen⟩
  | reported status foreseen => exact ⟨rfl, iff_of_true ⟨_, rfl, .inr status⟩ foreseen⟩
  | crashed unforeseen =>
    exact ⟨rfl, iff_of_false (by simp) fun foreseen => foreseen unforeseen⟩

/-- A text gives one draft for each row, in order, or a fault that is reported, exactly where
nothing in it is unforeseen; and so it is that a dry run over a file ends, with status zero or
one. -/
theorem reading_ends_iff (depths : Depths) (text path : String)
    (content : Except FileFault (List Nat)) (e : Store.Engine) (url : Option String)
    (s : Store.State) :
    (¬UnforeseenText depths text ↔
      (∃ ms rows ds, Json.read depths.file (plainText text) = .ok (.object ms) ∧
        Json.Members.find? ms "data" = some (.list rows) ∧
        List.Forall₂ (fun row d => readRow depths.codes row = .ok d) rows ds ∧
        readContent depths text = .ok ds) ∨
      ∃ f, readContent depths text = .error f ∧ f.isCrash = false) ∧
    (carryOut depths ⟨path, true⟩ content e url s).2 = s ∧
    ((∃ ending, (carryOut depths ⟨path, true⟩ content e url s).1 = .ok ending ∧
        (ending.status = 0 ∨ ending.status = 1)) ↔ ¬UnforeseenIn depths content) := by
  refine ⟨?_, dry_run_ends_iff depths path content e url s⟩
  rw [readContent_foreseen_iff]
  apply or_congr_left
  constructor
  · rintro ⟨ds, read⟩
    obtain ⟨ms, rows, holds, listed, each⟩ := readContent_ok_iff.mp read
    exact ⟨ms, rows, ds, holds, listed, each, read⟩
  · rintro ⟨_, _, ds, -, -, -, read⟩
    exact ⟨ds, read⟩

/-- A file that holds an empty list. -/
theorem dry_run_escapes_list :
    readContent .usual "[]" = .error (.notObject .list) ∧
      (carryOut .usual ⟨"rules.json", true⟩ (.ok [91, 93]) .memory none .empty).1 =
        .error (.notObject .list) := by
  refine ⟨rfl, ?_⟩
  with_unfolding_all rfl

end DocNumber.Seed
