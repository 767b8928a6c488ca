import LintServer.Json.Basic
import LintServer.Number.Shortest

/-!
# Compact JSON text

A value without blanks, members in the order the object keeps them. Only the quote, the
backslash and the characters below U+0020 are escaped, so a printed text has no raw controls and
leaves everything else as it is.
-/

namespace LintServer

/-- Numbers are written around a point from a hundred-thousandth to a thousand billion, and with
a power of ten outside. -/
def Number.layout : Layout := ⟨-5, 15⟩

/-- The text of a number. -/
def Number.text : Number → String
  | .integer n => toString n
  | .real x => Number.layout.write x

namespace Json

/-- The two hexadecimal digits of a number below 256. -/
def hexPair (n : Nat) : List Char := [Nat.digitChar (n / 16), Nat.digitChar (n % 16)]

/-- How a character stands in a JSON string. -/
def escaped (c : Char) : List Char :=
  if c = '"' then ['\\', '"']
  else if c = '\\' then ['\\', '\\']
  else if c = '\n' then ['\\', 'n']
  else if c = '\r' then ['\\', 'r']
  else if c = '\t' then ['\\', 't']
  else if c.toNat = 8 then ['\\', 'b']
  else if c.toNat = 12 then ['\\', 'f']
  else if c.toNat < 32 then ['\\', 'u', '0', '0'] ++ hexPair c.toNat
  else [c]

/-- A text between quotes. -/
def quotedChars (s : String) : List Char := '"' :: s.toList.flatMap escaped ++ ['"']

mutual

/-- The characters of a value. -/
def chars : Json → List Char
  | .null => ['n', 'u', 'l', 'l']
  | .bool true => ['t', 'r', 'u', 'e']
  | .bool false => ['f', 'a', 'l', 's', 'e']
  | .number n => n.text.toList
  | .string s => quotedChars s
  | .array [] => ['[', ']']
  | .array (v :: more) => '[' :: chars v ++ itemChars more ++ [']']
  | .object [] => ['\x7b', '\x7d']
  | .object ((k, v) :: more) =>
    '\x7b' :: quotedChars k ++ ':' :: chars v ++ memberChars more ++ ['\x7d']

/-- The characters of the items after the first. -/
def itemChars : List Json → List Char
  | [] => []
  | v :: more => ',' :: chars v ++ itemChars more

/-- The characters of the members after the first. -/
def memberChars : List (String × Json) → List Char
  | [] => []
  | (k, v) :: more => ',' :: quotedChars k ++ ':' :: chars v ++ memberChars more

end

/-- The text of a value. -/
def render (v : Json) : String := String.ofList v.chars

end Json

end LintServer
