import LintServer.Text.Combining
import LintServer.Text.Invisible

/-!
# Quoted text

A text between double quotes, as diagnostics of a reader and the name of a state print it: the
quote, the backslash and the common controls are escaped by letter, and a character that would
not be seen on its own is written by its number.
-/

namespace LintServer.Text

/-- The digits of a number in base sixteen, in lower case. -/
def hexDigits (n : Nat) : List Char := Nat.toDigits 16 n

/-- A character named by its number, between braces. -/
def numbered (c : Char) : List Char :=
  ['\\', 'u', '\x7b'] ++ hexDigits c.toNat ++ ['\x7d']

/-- How one character stands inside a quoted text. -/
def quotedChar (c : Char) : List Char :=
  if c = '\x00' then ['\\', '0']
  else if c = '\t' then ['\\', 't']
  else if c = '\r' then ['\\', 'r']
  else if c = '\n' then ['\\', 'n']
  else if c = '"' then ['\\', '"']
  else if c = '\\' then ['\\', '\\']
  else if isCombining c || isInvisible c then numbered c
  else [c]

/-- A text between double quotes. -/
def quoted (s : String) : String :=
  String.ofList ('"' :: s.toList.flatMap quotedChar ++ ['"'])

end LintServer.Text
