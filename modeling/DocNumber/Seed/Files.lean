import DocNumber.Text.Path
import DocNumber.Text.Quoted
import DocNumber.Text.Utf8

/-!
Files that seeds are read from: a tree of folders below the one at hand, and what can go wrong on
the way to a file.
-/

namespace DocNumber.Seed

inductive FileFault
  | missing
  | denied
  | notFolder
  | isFolder
  | nameTooLong
  | zeroCharacter
  | other (number : Nat) (words : String)
deriving DecidableEq, Repr

/-- The number and the words that a system has for the fault. -/
def FileFault.words : FileFault → Nat × String
  | .missing => (2, "No such file or directory")
  | .denied => (13, "Permission denied")
  | .notFolder => (20, "Not a directory")
  | .isFolder => (21, "Is a directory")
  | .nameTooLong => (36, "File name too long")
  | .zeroCharacter => (0, "embedded null byte")
  | .other number words => (number, words)

def FileFault.message (path : String) : FileFault → String
  | .zeroCharacter => "embedded null byte"
  | f => "[Errno " ++ toString f.words.1 ++ "] " ++ f.words.2 ++ ": " ++ Text.quoted path

/-- The way to a file or folder: names from the folder at hand downwards. -/
abbrev Way := List (List Char)

/-- Files with their bytes, and folders. A folder is also there if something in it is. -/
structure Files where
  files : List (Way × List Nat)
  folders : List Way

namespace Files

def bytes? (fs : Files) (way : Way) : Option (List Nat) :=
  fs.files.lookup way

def isFolder (fs : Files) (way : Way) : Bool :=
  way.isEmpty || fs.folders.any (fun f => way.isPrefixOf f) ||
    fs.files.any fun f => way.isPrefixOf f.1 && way != f.1

/-- Follows names from a folder on. What lies above the folder at hand cannot be entered from
here. -/
def follow (fs : Files) (here : Way) : List (List Char) → Except FileFault Way
  | [] => .ok here
  | name :: rest =>
    if fs.isFolder here then
      if name == ['.', '.'] then
        if here.isEmpty then (if rest.isEmpty then .ok [] else .error .missing)
        else follow fs here.dropLast rest
      else follow fs (here ++ [name]) rest
    else if (fs.bytes? here).isSome then .error .notFolder
    else .error .missing

/-- The greatest length of one name, in bytes. -/
def longestName : Nat := 255

def read (fs : Files) (path : String) : Except FileFault (List Nat) :=
  let names := Text.pathSegments path.toList
  if path.toList.contains '\x00' then .error .zeroCharacter
  else if names.any fun n => longestName < (String.ofList n).utf8ByteSize then .error .nameTooLong
  else if (Text.pathRoot path.toList).isEmpty then
    match fs.follow [] names with
    | .error f => .error f
    | .ok way =>
      match fs.bytes? way with
      | some bytes => .ok bytes
      | none => .error (if fs.isFolder way then .isFolder else .missing)
  else .error (if names.isEmpty then .isFolder else .missing)

end Files

end DocNumber.Seed
