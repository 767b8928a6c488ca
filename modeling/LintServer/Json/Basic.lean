import LintServer.Number.Double

/-!
# JSON values

A value as reports, settings and messages carry it. Numbers written as integers stay integers
while they fit 64 bits, with or without sign; every other number is a `Double`. The members of
an object are kept in strictly ascending order of their keys (`Json.insert`), by code point and
so by UTF-8 bytes.

Several records of this library may be written as an object, by key, or as an array, by place;
`Json.slots` reads either.
-/

namespace LintServer

/-- A JSON number. -/
inductive Number
  | integer (value : Int)
  | real (value : Double)
deriving DecidableEq, Repr

/-- A JSON value. -/
inductive Json
  | null
  | bool (value : Bool)
  | number (value : Number)
  | string (value : String)
  | array (items : List Json)
  | object (members : List (String × Json))
deriving Inhabited

namespace Json

/-- Puts a member in its place among members in ascending order; a member of the same key gives
way. -/
def insert (key : String) (value : Json) : List (String × Json) → List (String × Json)
  | [] => [(key, value)]
  | (k, v) :: more =>
    if key < k then (key, value) :: (k, v) :: more
    else if key = k then (key, value) :: more
    else (k, v) :: insert key value more

/-- The object of some members, in which the last of several with one key counts. -/
def ofMembers (members : List (String × Json)) : Json :=
  .object (members.foldl (fun done (k, v) => insert k v done) [])

/-- The object without members. -/
def empty : Json := .object []

/-- An integer value. -/
def int (n : Int) : Json := .number (.integer n)

/-- A natural number as a value. -/
def nat (n : Nat) : Json := int n

/-- A text, or null where there is none. -/
def ofText? (s : Option String) : Json := s.elim .null .string

/-- The member of an object, by key. -/
def member? (key : String) : Json → Option Json
  | .object members => members.lookup key
  | _ => none

/-- A truth value. -/
def bool? : Json → Option Bool
  | .bool b => some b
  | _ => none

/-- A text. -/
def string? : Json → Option String
  | .string s => some s
  | _ => none

/-- An integer in the range of signed 64-bit words. -/
def int64? : Json → Option Int64
  | .number (.integer n) =>
    if -0x8000000000000000 ≤ n ∧ n < 0x8000000000000000 then some (Int64.ofInt n) else none
  | _ => none

/-- An integer in the range of signed 32-bit words. -/
def int32? : Json → Option Int32
  | .number (.integer n) =>
    if -0x80000000 ≤ n ∧ n < 0x80000000 then some (Int32.ofInt n) else none
  | _ => none

/-- An integer in the range of unsigned 64-bit words. -/
def word64? : Json → Option UInt64
  | .number (.integer n) =>
    if 0 ≤ n ∧ n < 0x10000000000000000 then some (UInt64.ofNat n.toNat) else none
  | _ => none

/-- The items of an array. -/
def items? : Json → Option (List Json)
  | .array items => some items
  | _ => none

/-- Whether a value is null. -/
def isNull : Json → Bool
  | .null => true
  | _ => false

/-- Whether a value is an object. -/
def isObject : Json → Bool
  | .object _ => true
  | _ => false

/-- What kind of value it is, with its article. -/
def kind : Json → String
  | .null => "null"
  | .bool _ => "a boolean"
  | .number _ => "a number"
  | .string _ => "a string"
  | .array _ => "an array"
  | .object _ => "an object"

/-- The values of a record's fields, in the order of `names`: by key from an object, by place
from an array that is not too long. Anything else is no record. -/
def slots (names : List String) : Json → Option (List (Option Json))
  | .object members => some (names.map fun name => members.lookup name)
  | .array items =>
    if items.length ≤ names.length then
      some ((List.range names.length).map fun i => items[i]?)
    else none
  | _ => none

end Json

end LintServer
