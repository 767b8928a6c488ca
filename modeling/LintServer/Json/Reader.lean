import LintServer.Json.Fault
import LintServer.Text.Utf8

/-!
# Reading JSON text

A reader takes the bytes not yet read and gives back what it read and the bytes after it. Every
reader consumes its input from the left and looks at one byte at a time, so a complaint is about
the first byte that cannot be right. There are two places for a complaint: `here`, at the bytes
already consumed, and `next`, one byte further.

Arrays and objects may stand inside one another, `depthLimit` of them at most; the allowance left
is the argument on which `value` recurs.
-/

namespace LintServer.Json

namespace Reader

/-- A complaint placed after the bytes consumed so far. -/
def here {α : Type} (cause : Cause) (rest : List UInt8) : Except Fault α :=
  .error ⟨cause, some rest.length⟩

/-- A complaint placed at the next byte, or at the end when there is none. -/
def next {α : Type} (cause : Cause) (rest : List UInt8) : Except Fault α :=
  .error ⟨cause, some (rest.length - 1)⟩

/-- The four bytes that may stand between tokens. -/
def isBlankByte (b : UInt8) : Bool := b == 32 || b == 10 || b == 9 || b == 13

/-- The input from its first byte that is no blank. -/
def skipBlank (s : List UInt8) : List UInt8 := s.dropWhile isBlankByte

/-- A decimal digit. -/
def isDigit (b : UInt8) : Bool := 48 ≤ b && b ≤ 57

/-- The value of a decimal digit. -/
def digitValue (b : UInt8) : Nat := b.toNat - 48

/-! ### Words and numbers -/

/-- Reads the remaining letters of a word. -/
def word : (letters : List UInt8) → List UInt8 → Except Fault (List UInt8)
  | [], s => .ok s
  | _ :: _, [] => here .endOfValue []
  | l :: more, b :: s => if b = l then word more s else here .expectedIdent s

/-- Appends digits to a number while it stays within `limit`; gives the number and the digits
left over. -/
def gather (limit : Nat) : Nat → List UInt8 → Nat × List UInt8
  | n, [] => (n, [])
  | n, d :: more =>
    if n * 10 + digitValue d ≤ limit then gather limit (n * 10 + digitValue d) more
    else (n, d :: more)

/-- The greatest significand a number keeps; further digits only count. -/
def significandLimit : Nat := 0xffffffffffffffff

/-- The greatest exponent a number may state. -/
def exponentLimit : Nat := 0x7fffffff

/-- The number `significand * 10 ^ exponent` with a sign, complaining at `rest` when it is out of
range. -/
def real (negative : Bool) (significand : Nat) (exponent : Int) (rest : List UInt8) :
    Except Fault (Number × List UInt8) :=
  match Double.ofDecimal? significand exponent with
  | some x => .ok (.real { x with negative }, rest)
  | none => here .numberOutOfRange rest

/-- Reads an exponent, after its letter. -/
def exponentPart (negative : Bool) (significand : Nat) (before : Int) (s : List UInt8) :
    Except Fault (Number × List UInt8) :=
  let (down, s) : Bool × List UInt8 :=
    match s with
    | b :: r => if b = 43 then (false, r) else if b = 45 then (true, r) else (false, s)
    | [] => (false, s)
  match s with
  | [] => here .endOfValue []
  | b :: r =>
    if isDigit b then
      let digits := s.takeWhile isDigit
      let rest := s.dropWhile isDigit
      match gather exponentLimit 0 digits with
      | (e, []) => real negative significand (if down then before - e else before + e) rest
      | (_, left) =>
        if significand ≠ 0 ∧ down = false then
          here .numberOutOfRange (s.drop (digits.length - left.length + 1))
        else .ok (.real (Double.zero negative), rest)
    else here .invalidNumber r

/-- Reads a fraction, after its point. -/
def fractionPart (negative : Bool) (significand : Nat) (before : Int) (s : List UInt8) :
    Except Fault (Number × List UInt8) :=
  let digits := s.takeWhile isDigit
  let rest := s.dropWhile isDigit
  if digits = [] then next (if s = [] then .endOfValue else .invalidNumber) s
  else
    let (significand, left) := gather significandLimit significand digits
    let exponent : Int := before - (digits.length - left.length : Nat)
    match rest with
    | b :: r =>
      if b = 101 || b = 69 then exponentPart negative significand exponent r
      else real negative significand exponent rest
    | [] => real negative significand exponent rest

/-- What follows the digits in front of the point. -/
def afterInteger (negative : Bool) (digits rest : List UInt8) : Except Fault (Number × List UInt8) :=
  let (significand, left) := gather significandLimit 0 digits
  let plain : Except Fault (Number × List UInt8) :=
    if left ≠ [] then real negative significand left.length rest
    else if negative = false then .ok (.integer significand, rest)
    else if significand ≠ 0 ∧ significand ≤ 0x8000000000000000 then
      .ok (.integer (-significand), rest)
    else real true significand 0 rest
  match rest with
  | b :: r =>
    if b = 46 then fractionPart negative significand left.length r
    else if b = 101 || b = 69 then exponentPart negative significand left.length r
    else plain
  | [] => plain

/-- Reads a number, after its sign. -/
def number (negative : Bool) (s : List UInt8) : Except Fault (Number × List UInt8) :=
  match s with
  | [] => here .endOfValue []
  | b :: r =>
    if b = 48 then
      match r with
      | d :: _ => if isDigit d then next .invalidNumber r else afterInteger negative [b] r
      | [] => afterInteger negative [b] r
    else if isDigit b then afterInteger negative (s.takeWhile isDigit) (s.dropWhile isDigit)
    else here .invalidNumber r

/-! ### Strings -/

/-- The value of a hexadecimal digit. -/
def hexValue? (b : UInt8) : Option Nat :=
  if 48 ≤ b && b ≤ 57 then some (b.toNat - 48)
  else if 65 ≤ b && b ≤ 70 then some (b.toNat - 55)
  else if 97 ≤ b && b ≤ 102 then some (b.toNat - 87)
  else none

/-- The value of four hexadecimal digits. -/
def hex4? (a b c d : UInt8) : Option Nat := do
  let a ← hexValue? a
  let b ← hexValue? b
  let c ← hexValue? c
  let d ← hexValue? d
  return ((a * 16 + b) * 16 + c) * 16 + d

/-- What a single letter after a backslash stands for. -/
def escapeByte? (b : UInt8) : Option UInt8 :=
  if b = 34 then some 34
  else if b = 92 then some 92
  else if b = 47 then some 47
  else if b = 98 then some 8
  else if b = 102 then some 12
  else if b = 110 then some 10
  else if b = 114 then some 13
  else if b = 116 then some 9
  else none

/-- The first half of a surrogate pair. -/
def isLeading (n : Nat) : Bool := 0xD800 ≤ n && n ≤ 0xDBFF

/-- The second half of a surrogate pair. -/
def isTrailing (n : Nat) : Bool := 0xDC00 ≤ n && n ≤ 0xDFFF

/-- Puts bytes in front of what was read. -/
def prepend (bytes : List UInt8) : Except Fault (List UInt8 × List UInt8) → Except Fault (List UInt8 × List UInt8)
  | .ok (more, rest) => .ok (bytes ++ more, rest)
  | .error fault => .error fault

/-- Reads a string up to and with its closing quote; gives its bytes with escapes resolved. -/
def stringBytes : List UInt8 → Except Fault (List UInt8 × List UInt8)
  | [] => here .endOfString []
  | b :: r =>
    if b = 34 then .ok ([], r)
    else if b = 92 then
      match r with
      | [] => here .endOfString []
      | e :: r =>
        if e = 117 then
          match r with
          | h1 :: h2 :: h3 :: h4 :: r =>
            match hex4? h1 h2 h3 h4 with
            | none => here .invalidEscape r
            | some n =>
              if isTrailing n then here .loneSurrogate r
              else if isLeading n then
                match r with
                | [] => here .endOfString []
                | c :: r =>
                  if c = 92 then
                    match r with
                    | [] => here .endOfString []
                    | u :: r =>
                      if u = 117 then
                        match r with
                        | k1 :: k2 :: k3 :: k4 :: r =>
                          match hex4? k1 k2 k3 k4 with
                          | none => here .invalidEscape r
                          | some m =>
                            if isTrailing m then
                              let scalar := 0x10000 + (n - 0xD800) * 1024 + (m - 0xDC00)
                              prepend (Utf8.encodeChar (Char.ofNat scalar)) (stringBytes r)
                            else here .loneSurrogate r
                        | _ => here .endOfString []
                      else here .endOfEscape r
                  else here .endOfEscape r
              else prepend (Utf8.encodeChar (Char.ofNat n)) (stringBytes r)
          | _ => here .endOfString []
        else
          match escapeByte? e with
          | some byte => prepend [byte] (stringBytes r)
          | none => here .invalidEscape r
    else if b < 32 then here .controlCharacter r
    else prepend [b] (stringBytes r)

/-- Reads a string, after its opening quote. Its bytes have to be UTF-8. -/
def text (s : List UInt8) : Except Fault (String × List UInt8) :=
  match stringBytes s with
  | .error fault => .error fault
  | .ok (bytes, rest) =>
    match Utf8.string? bytes with
    | some t => .ok (t, rest)
    | none =>
      let raw := s.take (s.length - rest.length - 1)
      .error ⟨.invalidCodePoint, some (s.length - Utf8.soundLength raw - 1)⟩

/-! ### Values -/

/-- Reads the items of an array and its closing bracket. Every item takes at least one byte, so
the number of bytes is `fuel` enough. -/
def items {α : Type} (read : List UInt8 → Except Fault (α × List UInt8)) : (fuel : Nat) → (first : Bool) →
    List UInt8 → Except Fault (List α × List UInt8)
  | 0, _, s => next .endOfList s
  | fuel + 1, first, s => do
    let s := skipBlank s
    match s with
    | [] => next .endOfList []
    | b :: r =>
      if b = 93 then .ok ([], r)
      else if first then
        let (v, s) ← read s
        let (vs, s) ← items read fuel false s
        .ok (v :: vs, s)
      else if b = 44 then
        match skipBlank r with
        | [] => next .endOfValue []
        | c :: t =>
          if c = 93 then next .trailingComma (c :: t)
          else
            let (v, s) ← read (c :: t)
            let (vs, s) ← items read fuel false s
            .ok (v :: vs, s)
      else next .expectedCommaOrBracket s

/-- Reads the colon after a key. -/
def colon (s : List UInt8) : Except Fault (List UInt8) :=
  match skipBlank s with
  | [] => next .endOfObject []
  | b :: r => if b = 58 then .ok r else next .expectedColon (b :: r)

/-- Looks for the next key of an object: the input after its opening quote, or the input after
the closing brace. -/
def nextKey (first : Bool) (s : List UInt8) : Except Fault (List UInt8 ⊕ List UInt8) :=
  match skipBlank s with
  | [] => next .endOfObject []
  | b :: r =>
    if b = 125 then .ok (.inr r)
    else if first then
      if b = 34 then .ok (.inl r) else next .keyMustBeString (b :: r)
    else if b = 44 then
      match skipBlank r with
      | [] => next .endOfValue []
      | c :: t =>
        if c = 34 then .ok (.inl t)
        else if c = 125 then next .trailingComma (c :: t)
        else next .keyMustBeString (c :: t)
    else next .expectedCommaOrBrace (b :: r)

/-- Reads the members of an object and its closing brace, in the order they are written. -/
def members {α : Type} (read : List UInt8 → Except Fault (α × List UInt8)) : (fuel : Nat) → (first : Bool) →
    List UInt8 → Except Fault (List (String × α) × List UInt8)
  | 0, _, s => next .endOfObject s
  | fuel + 1, first, s => do
    match ← nextKey first s with
    | .inr rest => .ok ([], rest)
    | .inl s =>
      let (key, s) ← text s
      let s ← colon s
      let (v, s) ← read s
      let (more, s) ← members read fuel false s
      .ok ((key, v) :: more, s)

/-- Reads a value in which at most `room` arrays and objects are open at once; `make` puts the
members of an object together. -/
def valueWith (make : List (String × Json) → Json) :
    (room : Nat) → List UInt8 → Except Fault (Json × List UInt8)
  | room, s => do
    let s := skipBlank s
    match s with
    | [] => next .endOfValue []
    | b :: r =>
      if b = 110 then do
        let r ← word [117, 108, 108] r
        .ok (.null, r)
      else if b = 116 then do
        let r ← word [114, 117, 101] r
        .ok (.bool true, r)
      else if b = 102 then do
        let r ← word [97, 108, 115, 101] r
        .ok (.bool false, r)
      else if b = 45 then do
        let (n, r) ← number true r
        .ok (.number n, r)
      else if isDigit b then do
        let (n, r) ← number false s
        .ok (.number n, r)
      else if b = 34 then do
        let (t, r) ← text r
        .ok (.string t, r)
      else if b = 91 then
        match room with
        | 0 => next .tooDeep s
        | room + 1 => do
          let (vs, r) ← items (valueWith make room) r.length true r
          .ok (.array vs, r)
      else if b = 123 then
        match room with
        | 0 => next .tooDeep s
        | room + 1 => do
          let (ms, r) ← members (valueWith make room) r.length true r
          .ok (make ms, r)
      else next .expectedValue s

/-- Reads a value. Of several members of one key the last counts. -/
def value : (room : Nat) → List UInt8 → Except Fault (Json × List UInt8) := valueWith .ofMembers

/-- Reads a value as it is written, with all the members of its objects in their order. -/
def written : (room : Nat) → List UInt8 → Except Fault (Json × List UInt8) := valueWith .object

/-- How many arrays and objects may be open at once. -/
def depthLimit : Nat := 127

/-- Nothing but blanks is left. -/
def finish (s : List UInt8) : Except Fault Unit :=
  match skipBlank s with
  | [] => .ok ()
  | b :: r => next .trailingCharacters (b :: r)

/-! ### Passing over values -/

/-- Passes over a string, after its opening quote. Escapes are looked at, characters are not. -/
def skipString : List UInt8 → Except Fault (List UInt8)
  | [] => here .endOfString []
  | b :: r =>
    if b = 34 then .ok r
    else if b = 92 then
      match r with
      | [] => here .endOfString []
      | e :: r =>
        if e = 117 then
          match r with
          | h1 :: h2 :: h3 :: h4 :: r =>
            match hex4? h1 h2 h3 h4 with
            | none => here .invalidEscape r
            | some _ => skipString r
          | _ => here .endOfString []
        else if (escapeByte? e).isSome then skipString r
        else here .invalidEscape r
    else if b < 32 then here .controlCharacter (b :: r)
    else skipString r

/-- Passes over an exponent, after its letter. -/
def skipExponent (s : List UInt8) : Except Fault (List UInt8) :=
  let s :=
    match s with
    | b :: r => if b = 43 || b = 45 then r else s
    | [] => s
  match s with
  | [] => here .invalidNumber []
  | b :: r => if isDigit b then .ok (r.dropWhile isDigit) else here .invalidNumber r

/-- Passes over what may follow the digits in front of the point. -/
def skipFraction (s : List UInt8) : Except Fault (List UInt8) :=
  match s with
  | [] => .ok []
  | b :: r =>
    if b = 46 then
      match r with
      | d :: t =>
        if isDigit d then
          match t.dropWhile isDigit with
          | e :: u => if e = 101 || e = 69 then skipExponent u else .ok (e :: u)
          | [] => .ok []
        else next .invalidNumber r
      | [] => next .invalidNumber r
    else if b = 101 || b = 69 then skipExponent r
    else .ok s

/-- Passes over a number, after its sign. Its range does not matter. -/
def skipNumber (s : List UInt8) : Except Fault (List UInt8) :=
  match s with
  | [] => here .invalidNumber []
  | b :: r =>
    if b = 48 then
      match r with
      | d :: _ => if isDigit d then next .invalidNumber r else skipFraction r
      | [] => skipFraction r
    else if isDigit b then skipFraction (r.dropWhile isDigit)
    else here .invalidNumber r

mutual

/-- Passes over a value of any depth. Of any two steps in a row one takes a byte. -/
def skipValue : (fuel : Nat) → List UInt8 → Except Fault (List UInt8)
  | 0, s => next .endOfValue s
  | fuel + 1, s =>
    let s := skipBlank s
    match s with
    | [] => next .endOfValue []
    | b :: r =>
      if b = 110 then word [117, 108, 108] r
      else if b = 116 then word [114, 117, 101] r
      else if b = 102 then word [97, 108, 115, 101] r
      else if b = 45 then skipNumber r
      else if isDigit b then skipNumber s
      else if b = 34 then skipString r
      else if b = 91 then skipItems fuel true r
      else if b = 123 then skipMembers fuel true r
      else next .expectedValue s

/-- Passes over the items of an array and its closing bracket. -/
def skipItems : (fuel : Nat) → (first : Bool) → List UInt8 → Except Fault (List UInt8)
  | 0, _, s => next .endOfList s
  | fuel + 1, first, s => do
    let s := skipBlank s
    match s with
    | [] => next .endOfList []
    | b :: r =>
      if b = 93 then .ok r
      else if first then
        let s ← skipValue fuel s
        skipItems fuel false s
      else if b = 44 then
        let s ← skipValue fuel r
        skipItems fuel false s
      else next .expectedCommaOrBracket s

/-- Passes over the members of an object and its closing brace. -/
def skipMembers : (fuel : Nat) → (first : Bool) → List UInt8 → Except Fault (List UInt8)
  | 0, _, s => next .endOfObject s
  | fuel + 1, first, s => do
    let s := skipBlank s
    match s with
    | [] => next .endOfObject []
    | b :: r =>
      if b = 125 then .ok r
      else if first = false ∧ b ≠ 44 then next .expectedCommaOrBrace s
      else
        let s := if first then s else skipBlank r
        match s with
        | [] => next .endOfObject []
        | q :: t =>
          if q = 34 then
            let s ← skipString t
            let s ← colon s
            let s ← skipValue fuel s
            skipMembers fuel false s
          else next .keyMustBeString s

end

/-- Passes over one value. -/
def skip (s : List UInt8) : Except Fault (List UInt8) := skipValue (2 * s.length + 2) s

end Reader

/-- Reads a whole text as one value. -/
def parse (input : List UInt8) : Except Fault Json := do
  let (v, rest) ← Reader.value Reader.depthLimit input
  Reader.finish rest
  return v

end LintServer.Json
