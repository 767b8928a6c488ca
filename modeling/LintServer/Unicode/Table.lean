import LintServer.Text.Cut

/-!
# Tables of characters

A table says something about stretches of code points. It is written as a text of entries between
blanks: the first and the last code point in base sixteen, with a dash between them if there is
more than one, and after a colon what is said of them. Entries stand in ascending order, so that
`Table.find?` can halve the table again and again.
-/

namespace LintServer.Unicode

/-- A stretch of code points of which the same is said. -/
structure Stretch (α : Type) where
  first : Nat
  last : Nat
  value : α

/-- Stretches in ascending order. -/
structure Table (α : Type) where
  stretches : Array (Stretch α)

/-- The value of a digit in base sixteen, in lower case. -/
def hexValue (c : Char) : Nat := if c.isDigit then c.toNat - 48 else c.toNat - 87

/-- The number that digits in base sixteen write. -/
def hexNumber (digits : List Char) : Nat := digits.foldl (fun n c => n * 16 + hexValue c) 0

/-- The stretches of a text that are not blank, the last first; `word` is the one being read. -/
def wordsBefore (text : List Char) : List (List Char) :=
  let (word, done) := text.foldl
    (fun ((word, done) : List Char × List (List Char)) c =>
      if c == ' ' || c == '\n' then ([], if word.isEmpty then done else word.reverse :: done)
      else (c :: word, done))
    ([], [])
  if word.isEmpty then done else word.reverse :: done

/-- Reads an entry; `read` is given what stands after its colon, if there is one. -/
def Stretch.ofText {α : Type} (read : Option (List Char) → α) (entry : List Char) : Stretch α :=
  let value :=
    match entry.dropWhile (· != ':') with
    | [] => none
    | _ :: text => some text
  match Text.cut (· == '-') (entry.takeWhile (· != ':')) with
  | [first, last] => ⟨hexNumber first, hexNumber last, read value⟩
  | ends => ⟨hexNumber ends.flatten, hexNumber ends.flatten, read value⟩

/-- Reads a table. -/
def Table.ofText {α : Type} (read : Option (List Char) → α) (text : String) : Table α :=
  ⟨((wordsBefore text.toList).reverse.map (Stretch.ofText read)).toArray⟩

namespace Table
variable {α : Type}

/-- Looks for the stretch with a code point between two places of the table. -/
def search (table : Table α) (n low high : Nat) : Option (Stretch α) :=
  if low < high then
    let middle := (low + high) / 2
    match table.stretches[middle]? with
    | none => none
    | some s =>
      if n < s.first then table.search n low middle
      else if s.last < n then table.search n (middle + 1) high
      else some s
  else none
termination_by high - low

/-- The stretch with a code point. -/
def find? (table : Table α) (n : Nat) : Option (Stretch α) :=
  table.search n 0 table.stretches.size

/-- What is said of a character. -/
def value? (table : Table α) (c : Char) : Option α := (table.find? c.toNat).map Stretch.value

/-- Whether anything is said of a character. -/
def covers (table : Table α) (c : Char) : Bool := (table.find? c.toNat).isSome

end Table

end LintServer.Unicode
