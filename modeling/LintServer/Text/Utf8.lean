/-!
# UTF-8

Characters as bytes and bytes as characters. A byte string is cut into **pieces**: each piece is
a character, or a faulty stretch of bytes that no character starts with. A faulty stretch is as
long as it can be while some character still starts with it, and one byte otherwise. Reading a
byte string strictly (`decode?`) wants characters only; reading it leniently (`lossy`) puts the
replacement character where a faulty stretch stands.
-/

namespace LintServer.Utf8

/-- The bytes of one character. -/
def encodeChar (c : Char) : List UInt8 :=
  let n := c.toNat
  if n < 0x80 then [UInt8.ofNat n]
  else if n < 0x800 then [UInt8.ofNat (0xC0 + n / 64), UInt8.ofNat (0x80 + n % 64)]
  else if n < 0x10000 then
    [UInt8.ofNat (0xE0 + n / 4096), UInt8.ofNat (0x80 + n / 64 % 64), UInt8.ofNat (0x80 + n % 64)]
  else
    [UInt8.ofNat (0xF0 + n / 262144), UInt8.ofNat (0x80 + n / 4096 % 64),
      UInt8.ofNat (0x80 + n / 64 % 64), UInt8.ofNat (0x80 + n % 64)]

/-- The bytes of a list of characters. -/
def encode (cs : List Char) : List UInt8 := cs.flatMap encodeChar

/-- The bytes of a text. -/
def ofString (s : String) : List UInt8 := encode s.toList

/-- How many bytes a character has whose first byte is `b`; zero when none starts so. -/
def width (b : UInt8) : Nat :=
  if b < 0x80 then 1
  else if b < 0xC2 then 0
  else if b < 0xE0 then 2
  else if b < 0xF0 then 3
  else if b < 0xF5 then 4
  else 0

/-- A byte that may follow the first byte of a character. -/
def isTail (b : UInt8) : Bool := 0x80 ≤ b && b ≤ 0xBF

/-- Whether `b` may be the second byte after `first`: overlong forms, surrogates and numbers
beyond the last character are shut out here. -/
def fits (first b : UInt8) : Bool :=
  if first = 0xE0 then 0xA0 ≤ b && b ≤ 0xBF
  else if first = 0xED then 0x80 ≤ b && b ≤ 0x9F
  else if first = 0xF0 then 0x90 ≤ b && b ≤ 0xBF
  else if first = 0xF4 then 0x80 ≤ b && b ≤ 0x8F
  else isTail b

/-- The low six bits of a byte that follows. -/
def low (b : UInt8) : Nat := b.toNat - 0x80

/-- A byte string cut into characters and, as `none`, faulty stretches. -/
def pieces : List UInt8 → List (Option Char)
  | [] => []
  | a :: r =>
    match width a with
    | 1 => some (Char.ofNat a.toNat) :: pieces r
    | 2 =>
      match r with
      | b :: r =>
        if isTail b then
          some (Char.ofNat ((a.toNat - 0xC0) * 64 + low b)) :: pieces r
        else none :: pieces (b :: r)
      | [] => [none]
    | 3 =>
      match r with
      | b :: r =>
        if fits a b then
          match r with
          | c :: r =>
            if isTail c then
              some (Char.ofNat ((a.toNat - 0xE0) * 4096 + low b * 64 + low c)) :: pieces r
            else none :: pieces (c :: r)
          | [] => [none]
        else none :: pieces (b :: r)
      | [] => [none]
    | 4 =>
      match r with
      | b :: r =>
        if fits a b then
          match r with
          | c :: r =>
            if isTail c then
              match r with
              | d :: r =>
                if isTail d then
                  some (Char.ofNat ((a.toNat - 0xF0) * 262144 + low b * 4096 + low c * 64 + low d))
                    :: pieces r
                else none :: pieces (d :: r)
              | [] => [none]
            else none :: pieces (c :: r)
          | [] => [none]
        else none :: pieces (b :: r)
      | [] => [none]
    | _ => none :: pieces r

/-- The characters of a byte string without faulty stretches. -/
def decode? (bytes : List UInt8) : Option (List Char) := (pieces bytes).mapM id

/-- The text of a byte string without faulty stretches. -/
def string? (bytes : List UInt8) : Option String := (decode? bytes).map String.ofList

/-- The text of any byte string, with U+FFFD for each faulty stretch. -/
def lossy (bytes : List UInt8) : String :=
  String.ofList ((pieces bytes).map fun p => p.getD '\uFFFD')

/-- How many bytes stand before the first faulty stretch. -/
def soundLength (bytes : List UInt8) : Nat :=
  (((pieces bytes).takeWhile Option.isSome).flatMap fun p => p.elim [] encodeChar).length

end LintServer.Utf8
