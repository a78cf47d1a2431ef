import DocNumber.Text.Digits
import DocNumber.Text.Printable

/-!
Quoted text for messages. Single quotes surround it, unless it holds a single quote and no
double one; what has no visible form is escaped, so that a message stays on one line.
-/

namespace DocNumber.Text

def quoteMark (cs : List Char) : Char :=
  if cs.contains '\'' && !cs.contains '"' then '"' else '\''

/-- Two, four or eight hexadecimal digits, as few as reach the code point. -/
def escapeCode (n : Nat) : List Char :=
  if n < 0x100 then '\\' :: 'x' :: hex 2 n
  else if n < 0x10000 then '\\' :: 'u' :: hex 4 n
  else '\\' :: 'U' :: hex 8 n

def escapeChar (mark c : Char) : List Char :=
  if c == mark || c == '\\' then ['\\', c]
  else if c == '\n' then ['\\', 'n']
  else if c == '\r' then ['\\', 'r']
  else if c == '\t' then ['\\', 't']
  else if isPrintable c then [c]
  else escapeCode c.toNat

def quoteChars (cs : List Char) : List Char :=
  let mark := quoteMark cs
  mark :: cs.flatMap (escapeChar mark) ++ [mark]

def quoted (s : String) : String :=
  String.ofList (quoteChars s.toList)

/-- Quoted texts in brackets, as a message lists them. -/
def quotedList (xs : List String) : String :=
  "[" ++ ", ".intercalate (xs.map quoted) ++ "]"

end DocNumber.Text
