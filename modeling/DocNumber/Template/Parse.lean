import DocNumber.Template.Fault

/-!
Reading a template. Literal text runs up to a brace; a place runs from an opening brace to the
next closing one and holds a label, with a colon and a width after it for the sequence label.
-/

namespace DocNumber.Template

/-- The text before and after the first `mark`; nothing after when there is no `mark`. -/
def splitAtFirst (mark : Char) (cs : List Char) : List Char × Option (List Char) :=
  match cs.dropWhile (· != mark) with
  | [] => (cs, none)
  | _ :: rest => (cs.takeWhile (· != mark), some rest)

/-- Reads what stands between the braces of a place. -/
def readPlace (body : List Char) : Except Fault Token :=
  let (name, width) := splitAtFirst ':' body
  match Label.ofName? name with
  | none => .error (.unknownPlace body)
  | some label =>
    match width with
    | none => .ok (.place label none)
    | some digits =>
      if label ≠ .sequence then .error (.widthNotAccepted label)
      else match Text.readDigits? digits with
        | none => .error (.invalidWidth body)
        | some w =>
          if digits.length > 2 then .error (.invalidWidth body)
          else if 1 ≤ w ∧ w ≤ maxWidth then .ok (.place label (some w))
          else .error (.widthOutOfRange body)

/-- Puts a character in front, into the literal that starts there if there is one. -/
def consChar (c : Char) : List Token → List Token
  | .literal text :: ts => .literal (c :: text) :: ts
  | ts => .literal [c] :: ts

/-- Reads from position `p` on. -/
def parseFrom (p : Nat) : List Char → Except Fault (List Token)
  | [] => .ok []
  | c :: rest =>
    if c = '\x7d' then .error (.unbalanced p)
    else if c = '\x7b' then
      match h : rest.dropWhile (· != '\x7d') with
      | [] => .error (.unclosed p)
      | _ :: after =>
        let body := rest.takeWhile (· != '\x7d')
        if body.contains '\x7b' then .error (.nested p)
        else
          have : after.length < rest.length := by
            have := (List.dropWhile_suffix (l := rest) (· != '\x7d')).length_le
            rw [h] at this
            simpa [Nat.succ_le_iff] using this
          match readPlace body with
          | .error f => .error f
          | .ok t => (parseFrom (p + body.length + 2) after).map (t :: ·)
    else (parseFrom (p + 1) rest).map (consChar c)
termination_by cs => cs.length

def parse (cs : List Char) : Except Fault (List Token) :=
  parseFrom 0 cs

end DocNumber.Template
