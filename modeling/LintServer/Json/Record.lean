import LintServer.Json.Reader

/-!
# Records of one field in JSON text

A record with a single field is an object, in which the field stands at most once and other
members are passed over, or an array of at most one item. What a record should have been is
complained about only after its closing bracket has been looked for, and the place of the
complaint is there.
-/

namespace LintServer.Json
open Reader

/-- A record with one field: its name, the field's name, how the field is read, and what it is
when it is not given. -/
structure Record (α : Type) where
  name : String
  field : String
  read : (room : Nat) → List UInt8 → Except Fault (α × List UInt8)
  absent : Option α

/-- What was found where a record or a truth value should stand, or the fault in reading it. -/
def found (s : List UInt8) : Except Fault (Found × List UInt8) :=
  match s with
  | [] => next .endOfValue []
  | b :: r =>
    if b = 110 then return (.null, ← word [117, 108, 108] r)
    else if b = 116 then return (.bool true, ← word [114, 117, 101] r)
    else if b = 102 then return (.bool false, ← word [97, 108, 115, 101] r)
    else if b = 45 then do
      let (n, r) ← Reader.number true r
      return (.number n, r)
    else if isDigit b then do
      let (n, r) ← Reader.number false s
      return (.number n, r)
    else if b = 34 then do
      let (t, r) ← text r
      return (.string t, r)
    else if b = 91 then return (.sequence, s)
    else if b = 123 then return (.map, s)
    else next .expectedValue s

/-- Complains about the type of what stands here. -/
def mismatch {α : Type} (expected : String) (s : List UInt8) : Except Fault α := do
  let (what, rest) ← found s
  here (.wrongType what expected) rest

/-- Reads a truth value. -/
def truth (s : List UInt8) : Except Fault (Bool × List UInt8) :=
  let s := skipBlank s
  match s with
  | [] => next .endOfValue []
  | b :: r =>
    if b = 116 then return (true, ← word [114, 117, 101] r)
    else if b = 102 then return (false, ← word [97, 108, 115, 101] r)
    else mismatch "a boolean" s

/-- Reads any value and keeps it if it is a text. -/
def textIfAny (room : Nat) (s : List UInt8) : Except Fault (Option String × List UInt8) := do
  let (v, rest) ← value room s
  return (v.string?, rest)

/-- The end of an array that should hold nothing more. -/
def closeArray (s : List UInt8) : Except Fault (List UInt8) :=
  match skipBlank s with
  | [] => next .endOfList []
  | b :: r =>
    if b = 93 then .ok r
    else if b = 44 then
      match skipBlank r with
      | [] => next .trailingCharacters []
      | c :: t => next (if c = 93 then .trailingComma else .trailingCharacters) (c :: t)
    else next .trailingCharacters (b :: r)

/-- Where a complaint about an object stands: after blanks and, if it is there, the brace. -/
def afterBrace (s : List UInt8) : List UInt8 :=
  match skipBlank s with
  | [] => []
  | b :: r => if b = 125 then r else b :: r

namespace Record
variable {α : Type} (record : Record α)

/-- Reads the members of a record's object; `seen` is the field if it was read already. -/
def readMembers (room : Nat) : (fuel : Nat) → (first : Bool) → (seen : Option α) →
    List UInt8 → Except Fault (α × List UInt8)
  | 0, _, _, s => next .endOfObject s
  | fuel + 1, first, seen, s => do
    match ← nextKey first s with
    | .inr rest =>
      match seen, record.absent with
      | some v, _ => .ok (v, rest)
      | none, some v => .ok (v, rest)
      | none, none => here (.missingField record.field) rest
    | .inl s =>
      let (key, s) ← text s
      if key = record.field then
        if seen.isSome then here (.duplicateField record.field) (afterBrace s)
        else
          let s ← colon s
          let (v, s) ← record.read room s
          readMembers room fuel false (some v) s
      else
        let s ← colon s
        let s ← skip s
        readMembers room fuel false seen s

/-- Reads the one item a record's array may have. -/
def readItem (room : Nat) (s : List UInt8) : Except Fault (α × List UInt8) := do
  match skipBlank s with
  | [] => next .endOfList []
  | b :: r =>
    if b = 93 then
      match record.absent with
      | some v => .ok (v, r)
      | none => here (.wrongLength 0 ("struct " ++ record.name ++ " with 1 element")) r
    else
      let (v, s) ← record.read room (b :: r)
      let s ← closeArray s
      .ok (v, s)

/-- Reads a record. -/
def readFrom (room : Nat) (s : List UInt8) : Except Fault (α × List UInt8) :=
  let s := skipBlank s
  match s with
  | [] => next .endOfValue []
  | b :: r =>
    if b = 91 then
      match room with
      | 0 => next .tooDeep s
      | room + 1 => record.readItem room r
    else if b = 123 then
      match room with
      | 0 => next .tooDeep s
      | room + 1 => record.readMembers room r.length true none r
    else mismatch ("struct " ++ record.name) s

/-- Reads a whole text as one record. -/
def parse (input : List UInt8) : Except Fault α := do
  let (v, rest) ← record.readFrom depthLimit input
  finish rest
  return v

end Record

end LintServer.Json
