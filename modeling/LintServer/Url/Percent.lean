import LintServer.Text.Utf8

/-!
# Percent encoding

Characters that may not stand in a part of a URL are written as `%` and two hexadecimal digits
for each of their bytes. Which characters these are depends on the part.
-/

namespace LintServer.Url

/-- Characters that are encoded everywhere: controls and everything beyond ASCII. -/
def isControl (c : Char) : Bool := c.toNat < 32 || 127 ≤ c.toNat

/-- Characters encoded in a fragment. -/
def inFragment (c : Char) : Bool := isControl c || [' ', '"', '<', '>', '\x60'].contains c

/-- Characters encoded in a path. -/
def inPath (c : Char) : Bool := inFragment c || ['#', '?', '\x7b', '\x7d'].contains c

/-- Characters encoded in a query. -/
def inQuery (c : Char) : Bool := isControl c || [' ', '"', '#', '<', '>'].contains c

/-- Characters encoded in the query of a URL for the web or for files. -/
def inSpecialQuery (c : Char) : Bool := inQuery c || c == '\''

/-- Characters encoded in a user name or password. -/
def inUserInfo (c : Char) : Bool :=
  inPath c || ['/', ':', ';', '=', '@', '[', '\\', ']', '^', '|'].contains c

/-- The two digits for half a byte each, in upper case. -/
def upperHex (n : Nat) : Char := (Nat.digitChar n).toUpper

/-- A byte as `%` and two digits. -/
def percentByte (b : UInt8) : List Char := ['%', upperHex (b.toNat / 16), upperHex (b.toNat % 16)]

/-- Encodes the characters of a set. -/
def encode (set : Char → Bool) (cs : List Char) : List Char :=
  cs.flatMap fun c => if set c then (Utf8.encodeChar c).flatMap percentByte else [c]

/-- The value of a hexadecimal digit. -/
def hexDigit? (b : UInt8) : Option Nat :=
  if 48 ≤ b && b ≤ 57 then some (b.toNat - 48)
  else if 65 ≤ b && b ≤ 70 then some (b.toNat - 55)
  else if 97 ≤ b && b ≤ 102 then some (b.toNat - 87)
  else none

/-- Resolves each `%` that two hexadecimal digits follow; every other byte stands for itself. -/
def decodeBytes : List UInt8 → List UInt8
  | [] => []
  | [a] => [a]
  | [a, b] => [a, b]
  | a :: b :: c :: r =>
    match a == 37, hexDigit? b, hexDigit? c with
    | true, some h, some l => UInt8.ofNat (h * 16 + l) :: decodeBytes r
    | _, _, _ => a :: decodeBytes (b :: c :: r)

/-- The bytes a text stands for. -/
def decode (s : String) : List UInt8 := decodeBytes (Utf8.ofString s)

end LintServer.Url
