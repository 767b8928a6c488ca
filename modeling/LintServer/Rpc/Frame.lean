import LintServer.Text.Blank
import LintServer.Text.Cut
import LintServer.Text.Utf8

/-!
# Frames

On a byte stream every message stands in a frame: header lines, an empty line, and as many bytes
as the header says. `encode` writes a frame, and `next` cuts the first one off a stream.
-/

namespace LintServer.Rpc.Frame

/-- The end of a header line. -/
def lineEnd : List UInt8 := [13, 10]

/-- The bytes of a frame. -/
def encode (body : List UInt8) : List UInt8 :=
  Utf8.ofString ("Content-Length: " ++ toString body.length) ++ lineEnd ++ lineEnd ++ body

/-- What stands at the front of a stream. -/
inductive Next
  /-- The frame is not complete yet. -/
  | incomplete
  /-- The bytes of a message, and what follows it. -/
  | body (bytes rest : List UInt8)
  /-- No frame starts here. -/
  | broken
deriving DecidableEq, Repr

/-! ### Header lines -/

/-- A byte of a header's name. -/
def isNameByte (b : UInt8) : Bool :=
  let c := Char.ofNat b.toNat
  c.isAlphanum || "!#$%&'*+-.^_\x60|~".toList.contains c

/-- A byte of a header's value: anything but controls, though a tab is fine. -/
def isValueByte (b : UInt8) : Bool := b == 9 || (32 ≤ b && b != 127)

/-- A blank or tab. -/
def isGap (b : UInt8) : Bool := b == 32 || b == 9

/-- What is read of the front of a stream. -/
inductive Reading (α : Type)
  /-- More bytes are needed to tell. -/
  | unfinished
  | refused
  | done (value : α) (rest : List UInt8)

/-- The end of a line. -/
def endOfLine : List UInt8 → Reading Unit
  | [] => .unfinished
  | 10 :: rest => .done () rest
  | [13] => .unfinished
  | 13 :: 10 :: rest => .done () rest
  | _ => .refused

/-- A name and a value. -/
abbrev Header := List UInt8 × List UInt8

/-- Reads a header line: a name, a colon, and a value with blanks around it. -/
def headerLine (s : List UInt8) : Reading Header :=
  let name := s.takeWhile isNameByte
  match name, s.dropWhile isNameByte with
  | _ :: _, [] => .unfinished
  | _ :: _, 58 :: r =>
    let r := r.dropWhile isGap
    match endOfLine (r.dropWhile isValueByte) with
    | .unfinished => .unfinished
    | .refused => .refused
    | .done () rest =>
      let value := ((r.takeWhile isValueByte).reverse.dropWhile isGap).reverse
      .done (name, value) rest
  | _, _ => .refused

/-- Reads header lines and the empty line after them; there may be `room` headers. -/
def headers : (room : Nat) → List UInt8 → Reading (List Header)
  | room, s =>
    let isLine := s.head?.any fun b => b == 10 || b == 13
    match isLine, endOfLine s with
    | true, .done () rest => .done [] rest
    | true, .refused => .refused
    | _, _ =>
      if s = [] ∨ isLine then .unfinished
      else
        match headerLine s with
        | .unfinished => .unfinished
        | .refused => .refused
        | .done header rest =>
          match room with
          | 0 => .refused
          | room + 1 =>
            match headers room rest with
            | .done more rest => .done (header :: more) rest
            | .unfinished => .unfinished
            | .refused => .refused

/-- A frame has at most two headers. -/
def headerLimit : Nat := 2

/-! ### What headers say -/

/-- Whether a content type names the encoding of the messages. -/
def isUtf8Type (value : String) : Bool :=
  let parameters := (Text.cut (· == ';') value.toList).drop 1
  let charset? := (parameters.map fun p => String.ofList (Text.trimChars p)).find?
    (·.startsWith "charset=")
  charset? == some "charset=utf-8" || charset? == some "charset=utf8"

/-- A number of 64 bits without sign, save for a plus in front. -/
def length? (value : String) : Option Nat :=
  let digits := match value.toList with
    | '+' :: digits => digits
    | digits => digits
  if digits ≠ [] ∧ digits.all Char.isDigit then
    let n := digits.foldl (fun n c => n * 10 + (c.toNat - 48)) 0
    if n < UInt64.size then some n else none
  else none

/-- Takes in a header; `found` is the length stated so far. Headers of other names say nothing. -/
def takeIn (found : Option Nat) (header : Header) : Option (Option Nat) :=
  if header.1 = Utf8.ofString "Content-Length" then
    ((Utf8.string? header.2).bind length?).map some
  else if header.1 = Utf8.ofString "Content-Type" then
    if (Utf8.string? header.2).any isUtf8Type then some found else none
  else some found

/-- The length that headers state, the last of several. -/
def contentLength? (headers : List Header) : Option Nat := (headers.foldlM takeIn none).bind id

/-- The first frame of a stream. -/
def next (stream : List UInt8) : Next :=
  match headers headerLimit stream with
  | .unfinished => .incomplete
  | .refused => .broken
  | .done found rest =>
    match contentLength? found with
    | none => .broken
    | some n => if rest.length < n then .incomplete else .body (rest.take n) (rest.drop n)

end LintServer.Rpc.Frame
