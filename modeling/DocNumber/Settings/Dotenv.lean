import DocNumber.Text.Blank

/-!
Environment files: one binding a line, comments after a number sign, values bare or quoted. A
line that cannot be read is passed over.
-/

namespace DocNumber.Settings

/-- A name and its value, if it has one. -/
abbrev Binding := String × Option String

def isLineEnd (c : Char) : Bool :=
  c == '\n' || c == '\r'

/-- A blank that stays on its line. -/
def isGap (c : Char) : Bool :=
  Text.isBlank c && !isLineEnd c

def skipGap (cs : List Char) : List Char :=
  cs.dropWhile isGap

def skipLine (cs : List Char) : List Char :=
  cs.dropWhile fun c => !isLineEnd c

/-- A comment and the end of the line, if nothing else is left on it. -/
def endLine? (cs : List Char) : Option (List Char) :=
  let rest := skipGap cs
  let rest :=
    match rest with
    | '#' :: _ => skipLine rest
    | _ => rest
  match rest with
  | [] => some []
  | c :: more => if isLineEnd c then some more else none

/-- Drops the word `export` and the gap after it. -/
def skipExport (cs : List Char) : List Char :=
  match cs with
  | 'e' :: 'x' :: 'p' :: 'o' :: 'r' :: 't' :: c :: rest => if isGap c then skipGap rest else cs
  | _ => cs

def takeName? (cs : List Char) : Option (List Char × List Char) :=
  match cs with
  | '\'' :: rest =>
    match rest.dropWhile (· != '\'') with
    | [] => none
    | _ :: after =>
      let name := rest.takeWhile (· != '\'')
      if name.isEmpty then none else some (name, after)
  | _ =>
    let inName (c : Char) := c != '=' && c != '#' && !Text.isBlank c
    let name := cs.takeWhile inName
    if name.isEmpty then none else some (name, cs.dropWhile inName)

def doubleEscape? : Char → Option Char
  | '\\' => some '\\'
  | '\'' => some '\''
  | '"' => some '"'
  | 'a' => some '\x07'
  | 'b' => some '\x08'
  | 'f' => some '\x0c'
  | 'n' => some '\n'
  | 'r' => some '\r'
  | 't' => some '\t'
  | 'v' => some '\x0b'
  | _ => none

def singleEscape? : Char → Option Char
  | '\\' => some '\\'
  | '\'' => some '\''
  | _ => none

def unescape (escape? : Char → Option Char) : List Char → List Char
  | '\\' :: c :: rest =>
    match escape? c with
    | some x => x :: unescape escape? rest
    | none => '\\' :: unescape escape? (c :: rest)
  | c :: rest => c :: unescape escape? rest
  | [] => []

/-- The text up to the closing mark; a mark after a backslash does not close. -/
def takeQuoted? (mark : Char) : List Char → Option (List Char × List Char)
  | [] => none
  | '\\' :: c :: rest =>
    if c == mark then (takeQuoted? mark rest).map fun (s, after) => ('\\' :: c :: s, after)
    else (takeQuoted? mark (c :: rest)).map fun (s, after) => ('\\' :: s, after)
  | c :: rest =>
    if c == mark then some ([], rest)
    else (takeQuoted? mark rest).map fun (s, after) => (c :: s, after)

/-- Cuts a comment that follows a blank. -/
def cutComment : List Char → List Char
  | [] => []
  | c :: rest =>
    if Text.isBlank c && (rest.dropWhile Text.isBlank).head? == some '#' then []
    else c :: cutComment rest

def takeValue? (cs : List Char) : Option (List Char × List Char) :=
  match cs with
  | '\'' :: rest =>
    (takeQuoted? '\'' rest).map fun (s, after) => (unescape singleEscape? s, after)
  | '"' :: rest =>
    (takeQuoted? '"' rest).map fun (s, after) => (unescape doubleEscape? s, after)
  | _ =>
    let bare := cs.takeWhile fun c => !isLineEnd c
    some (Text.stripEndBy Text.isBlank (cutComment bare), skipLine cs)

/-- The binding on the first line, and the text after it. -/
def takeBinding? (cs : List Char) : Option (Option Binding × List Char) :=
  match cs with
  | '#' :: _ => (endLine? cs).map fun rest => (none, rest)
  | _ => do
    let (name, rest) ← takeName? (skipExport cs)
    let name := String.ofList name
    match skipGap rest with
    | '=' :: rest =>
      let (value, rest) ← takeValue? (skipGap rest)
      let rest ← endLine? rest
      return (some (name, some (String.ofList value)), rest)
    | rest =>
      let rest ← endLine? rest
      return (some (name, none), rest)

/-- Every line uses up text, so its length bounds the number of lines. -/
def readBindings : Nat → List Char → List Binding
  | 0, _ => []
  | fuel + 1, cs =>
    match cs.dropWhile Text.isBlank with
    | [] => []
    | line =>
      match takeBinding? line with
      | some (some b, rest) => b :: readBindings fuel rest
      | some (none, rest) => readBindings fuel rest
      | none => readBindings fuel ((skipLine line).drop 1)

def readDotenv (content : String) : List Binding :=
  let cs := content.toList
  readBindings (cs.length + 1) cs

end DocNumber.Settings
