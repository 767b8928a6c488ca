/-!
# White space and trimming

The characters with the Unicode property White_Space, and the removal of them from both ends of
a text.
-/

namespace LintServer.Text

/-- A character with the Unicode property White_Space. -/
def isBlank (c : Char) : Bool :=
  let n := c.toNat
  (0x9 ≤ n && n ≤ 0xD) || n == 0x20 || n == 0x85 || n == 0xA0 || n == 0x1680
    || (0x2000 ≤ n && n ≤ 0x200A) || n == 0x2028 || n == 0x2029 || n == 0x202F || n == 0x205F
    || n == 0x3000

/-- The characters between the first and the last that is not white space. -/
def trimChars (cs : List Char) : List Char :=
  ((cs.dropWhile isBlank).reverse.dropWhile isBlank).reverse

/-- A text without the white space at its ends. -/
def trim (s : String) : String := String.ofList (trimChars s.toList)

/-- A text of white space only. -/
def isBlankText (s : String) : Bool := s.toList.all isBlank

end LintServer.Text
