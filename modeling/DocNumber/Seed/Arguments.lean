import DocNumber.Text.Digits
import DocNumber.Text.Quoted

/-!
The arguments of the seeding command: one file, and options, of which any start that fits only one
of them is enough. After two dashes nothing is an option any more.
-/

namespace DocNumber.Seed

inductive Flag
  | help
  | dryRun
deriving DecidableEq, Repr

/-- The spellings of the options, in the order in which they are described. -/
def spellings : List (List Char × Flag) :=
  [(['-', 'h'], .help), ("--help".toList, .help), ("--dry-run".toList, .dryRun)]

def Flag.title : Flag → String
  | .help => "-h/--help"
  | .dryRun => "--dry-run"

/-- What an option word holds after its option: nothing, a text after an equals sign, or letters
after the single letter, which stand for more options. -/
inductive Tail
  | none
  | value (cs : List Char)
  | letters (cs : List Char)
deriving DecidableEq, Repr

inductive Word
  | plain (s : String)
  | separator
  | option (flag : Flag) (tail : Tail)
  | unknown (s : String)
deriving DecidableEq, Repr

inductive ArgumentFault
  | ambiguous (given : String) (spellings : List String)
  | unwantedValue (flag : Flag) (value : String)
  | unrecognized (words : List String)
deriving DecidableEq, Repr

def ArgumentFault.message : ArgumentFault → String
  | .ambiguous given spellings =>
    "ambiguous option: " ++ given ++ " could match " ++ ", ".intercalate spellings
  | .unwantedValue flag value =>
    "argument " ++ flag.title ++ ": ignored explicit argument " ++ Text.quoted value
  | .unrecognized words => "unrecognized arguments: " ++ " ".intercalate words

def lookupFlag? (spelling : List Char) : Option Flag :=
  spellings.lookup spelling

/-- The text before the first equals sign, and the value after it. -/
def splitValue (cs : List Char) : List Char × Tail :=
  match cs.dropWhile (· != '=') with
  | [] => (cs, .none)
  | _ :: value => (cs.takeWhile (· != '='), .value value)

structure Reading where
  spelling : List Char
  flag : Flag
  tail : Tail
deriving DecidableEq, Repr

/-- The options that a text may stand for. After one dash a single letter is an option, and the
rest of the text its tail; after two the text is the start of a spelling. -/
def readings (cs : List Char) : List Reading :=
  match cs with
  | '-' :: '-' :: _ =>
    let (start, tail) := splitValue cs
    spellings.filterMap fun (s, f) => if start.isPrefixOf s then some ⟨s, f, tail⟩ else none
  | _ =>
    spellings.filterMap fun (s, f) =>
      if s == cs.take 2 then some ⟨s, f, .letters (cs.drop 2)⟩
      else if cs.isPrefixOf s then some ⟨s, f, .none⟩
      else none

/-- A negative number is no option. -/
def isNegativeNumber (cs : List Char) : Bool :=
  match cs with
  | '-' :: body =>
    let whole := body.takeWhile Text.isDigit
    match body.dropWhile Text.isDigit with
    | [] => !whole.isEmpty
    | '.' :: fraction => !fraction.isEmpty && fraction.all Text.isDigit
    | _ => false
  | _ => false

def readDashed (s : String) : Except ArgumentFault Word :=
  let cs := s.toList
  let (start, tail) := splitValue cs
  match lookupFlag? cs, lookupFlag? start with
  | some f, _ => .ok (.option f .none)
  | none, some f => .ok (.option f tail)
  | none, none =>
    match readings cs with
    | [r] => .ok (.option r.flag r.tail)
    | [] => .ok (if isNegativeNumber cs || cs.contains ' ' then .plain s else .unknown s)
    | several => .error (.ambiguous s (several.map fun r => String.ofList r.spelling))

def readWord (s : String) : Except ArgumentFault Word :=
  match s.toList with
  | '-' :: _ :: _ => readDashed s
  | _ => .ok (.plain s)

def readWords : List String → Except ArgumentFault (List Word)
  | [] => .ok []
  | "--" :: rest => .ok (.separator :: rest.map Word.plain)
  | s :: rest =>
    match readWord s with
    | .error f => .error f
    | .ok w => (readWords rest).map (w :: ·)

structure Arguments where
  file : Option String
  dryRun : Bool
  extra : List String
deriving DecidableEq, Repr

/-- Help was asked for, or the arguments are at fault. -/
inductive Stop
  | help
  | fault (f : ArgumentFault)
deriving DecidableEq, Repr

/-- The options whose letters follow the letter of `flag`, up to a letter that is none. A dash
among them, or an equals sign, begins a value that the option before it does not take. -/
def followingFlags (flag : Flag) : List Char → Except ArgumentFault (List Flag)
  | [] => .ok []
  | c :: rest =>
    if c == '=' then .error (.unwantedValue flag (String.ofList rest))
    else if c == '-' then .error (.unwantedValue flag (String.ofList (c :: rest)))
    else
      match lookupFlag? ['-', c] with
      | none => .ok []
      | some next => (followingFlags next rest).map (next :: ·)

/-- The options that an option word stands for. What is left of it behind a letter that is no
option need not be kept: the only letter is that of help, and nothing is read after help. -/
def Tail.flags (flag : Flag) : Tail → Except ArgumentFault (List Flag)
  | .none => .ok [flag]
  | .value cs => .error (.unwantedValue flag (String.ofList cs))
  | .letters cs => (followingFlags flag cs).map (flag :: ·)

/-- Takes the words in order. The first plain word is the file, whether two dashes stand before or
after it; `pending` says that it is still to come. -/
def walk (a : Arguments) (pending : Bool) : List Word → Except Stop Arguments
  | [] => .ok a
  | .option flag tail :: rest =>
    match tail.flags flag with
    | .error f => .error (.fault f)
    | .ok flags =>
      if flags.contains .help then .error .help
      else walk { a with dryRun := true } pending rest
  | .unknown s :: rest => walk { a with extra := a.extra ++ [s] } pending rest
  | .plain s :: .separator :: rest =>
    if pending then walk { a with file := some s } false rest
    else walk { a with extra := a.extra ++ [s, "--"] } false rest
  | .plain s :: rest =>
    if pending then walk { a with file := some s } false rest
    else walk { a with extra := a.extra ++ [s] } false rest
  | .separator :: .plain s :: rest =>
    if pending then walk { a with file := some s } false rest
    else walk { a with extra := a.extra ++ ["--", s] } false rest
  | .separator :: rest =>
    if pending then walk a false rest else walk { a with extra := a.extra ++ ["--"] } false rest

/-- Words that are left over are a fault. -/
def readArguments (args : List String) (file : Option String) : Except Stop Arguments :=
  match readWords args with
  | .error f => .error (.fault f)
  | .ok words =>
    match walk ⟨file, false, []⟩ true words with
    | .error stop => .error stop
    | .ok a => if a.extra.isEmpty then .ok a else .error (.fault (.unrecognized a.extra))

end DocNumber.Seed
