import LintServer.Json.Fault
import LintServer.Url.Parser

/-!
# Shapes of parameters

What a method expects as its parameters, as data. Reading a value against a shape gives the value
back with every record written by key, or says what is wrong with it. Members are looked at in the
order of their keys, and only after them is it noticed what is missing.

A record may be put together from several (`Shape.joint`): its own fields are read first, then each
part takes the members it knows from those left over. Parts and the alternatives of a choice are
read from a copy of the value (`Source.copy`), which only shows in what is said about arrays that
are too long.
-/

namespace LintServer.Rpc
open Json (Cause Found)

/-- What a field of a record needs. -/
inductive Need
  /-- The field has to be there. -/
  | required
  /-- The field may be missing from a record written by key. -/
  | free
  /-- The field may be missing in any case. -/
  | defaulted
deriving DecidableEq, Repr

/-- Where a value is read from. -/
inductive Source
  | value
  | copy
deriving DecidableEq, Repr

mutual

/-- A shape. -/
inductive Shape
  | any
  | truth
  | text
  | url
  | word32
  | int32
  | float
  /-- One of some names. -/
  | choice (names : List String)
  | optional (inner : Shape)
  | list (inner : Shape)
  /-- Exactly two of a kind. -/
  | pair (inner : Shape)
  /-- Values by key; `expected` names what should be there. -/
  | map (expected : String) (key value : Shape)
  | record (name : String) (fields : Fields)
  /-- A record that is put together from its own fields and from parts, and never written by
  place. -/
  | joint (name : String) (fields : Fields) (parts : Parts)
  /-- The first of several shapes that fits. -/
  | either (name : String) (alternatives : Shapes)
  /-- One of several shapes, named by the value at a key. -/
  | tagged (key : String) (alternatives : Fields)
  /-- A record, for which a truth value may stand. -/
  | support (inner : Shape)

/-- The fields of a record. -/
inductive Fields
  | nil
  | cons (key : String) (need : Need) (shape : Shape) (rest : Fields)

/-- What a record is put together from: other records, and values for all keys left over. -/
inductive Parts
  | nil
  | record (fields : Fields) (rest : Parts)
  | others (shape : Shape) (rest : Parts)

/-- Several shapes. -/
inductive Shapes
  | nil
  | cons (shape : Shape) (rest : Shapes)

end

/-- The fields of a list. -/
def Fields.ofList : List (String × Need × Shape) → Fields
  | [] => .nil
  | (key, need, shape) :: rest => .cons key need shape (ofList rest)

/-- The shapes of a list. -/
def Shapes.ofList : List Shape → Shapes
  | [] => .nil
  | shape :: rest => .cons shape (ofList rest)

/-- The keys of fields. -/
def Fields.keys : Fields → List String
  | .nil => []
  | .cons key _ _ rest => key :: rest.keys

/-- How many fields there are. -/
def Fields.count (fields : Fields) : Nat := fields.keys.length

/-- The first field that should be there and is not. -/
def Fields.missing? (members : List (String × Json)) : Fields → Option String
  | .nil => none
  | .cons key need _ rest =>
    if need = .required ∧ (members.lookup key).isNone then some key else rest.missing? members

/-- Complains about the first field that should be there and is not. -/
def Fields.checkAll (fields : Fields) (members : List (String × Json)) : Except Cause Unit :=
  (fields.missing? members).elim (.ok ()) fun key => .error (.missingField key)

/-- The members that are no fields. -/
def Fields.leave (fields : Fields) (members : List (String × Json)) : List (String × Json) :=
  members.filter fun m => !fields.keys.contains m.1

/-- The complaint that a value is of the wrong type. -/
def wrongType {α : Type} (v : Json) (expected : String) : Except Cause α :=
  .error (.wrongType (.ofJson v) expected)

/-- Reads an integer between two bounds. -/
def readInteger (low high : Int) (name : String) (v : Json) : Except Cause Json :=
  match v with
  | .number (.integer n) =>
    if low ≤ n ∧ n ≤ high then .ok v else .error (.wrongValue (.ofJson v) name)
  | _ => wrongType v name

/-- Complains about a name that is none of some names. -/
def checkName (names : List String) (name : String) : Except Cause Unit :=
  if names.contains name then .ok () else .error (.unknownVariant name names)

/-- Reads one of some names: a text, or an object with the name as its only key and nothing
behind it. -/
def readChoice (names : List String) (v : Json) : Except Cause Json :=
  match v with
  | .string name => (checkName names name).map fun _ => v
  | .object [(name, behind)] => do
    checkName names name
    match behind with
    | .null => .ok (.string name)
    | _ => wrongType behind "unit"
  | .object _ => .error (.wrongValue .map "map with a single key")
  | _ => wrongType v "string or map"

/-- Reads a URL. -/
def readUrl (v : Json) : Except Cause Json :=
  match v with
  | .string s =>
    match Url.parse s with
    | .ok _ => .ok v
    | .error e => .error (.notUrl e.text s)
  | _ => wrongType v "a string representing an URL"

/-- So many things. -/
def elements (count : Nat) : String :=
  toString count ++ (if count = 1 then " element" else " elements")

/-- What a record is called when it is too short. -/
def recordWithFields (name : String) (count : Nat) : String :=
  "struct " ++ name ++ " with " ++ elements count

/-- Complains about an array of `length` items of which only `count` were read. -/
def checkLength (source : Source) (length count : Nat) : Except Cause Unit :=
  if length ≤ count then .ok ()
  else
    match source with
    | .value => .error (.wrongLength length "fewer elements in array")
    | .copy => .error (.wrongLength length (elements count ++ " in sequence"))

/-- What names the alternative of a tagged value, and what is left of the value. The name stands at
a key or in front. -/
def cutTag (key : String) : Json → Option (Json × Json)
  | .object members =>
    (members.lookup key).map fun tag => (tag, .object (members.filter fun m => m.1 != key))
  | .array (tag :: items) => some (tag, .array items)
  | _ => none

/-- The key of a tag: a name, or the number of a name. -/
def tagName? (names : List String) : Json → Option String
  | .string name => some name
  | .number (.integer n) => if 0 ≤ n then names[n.toNat]? else none
  | _ => none

mutual

/-- Reads a value against a shape. -/
def Shape.read : Shape → Source → Json → Except Cause Json
  | .any => fun _ v => .ok v
  | .truth => fun _ v =>
    match v with
    | .bool _ => .ok v
    | _ => wrongType v "a boolean"
  | .text => fun _ v =>
    match v with
    | .string _ => .ok v
    | _ => wrongType v "a string"
  | .url => fun _ v => readUrl v
  | .word32 => fun _ v => readInteger 0 (2 ^ 32 - 1) "u32" v
  | .int32 => fun _ v => readInteger (-2 ^ 31) (2 ^ 31 - 1) "i32" v
  | .float => fun _ v =>
    match v with
    | .number _ => .ok v
    | _ => wrongType v "f32"
  | .choice names => fun _ v => readChoice names v
  | .optional inner => fun source v =>
    match v with
    | .null => .ok .null
    | v => inner.read source v
  | .list inner => fun source v =>
    match v with
    | .array items => (items.mapM (inner.read source)).map .array
    | _ => wrongType v "a sequence"
  | .pair inner => fun source v =>
    match v with
    | .array items => do
      let done ← (items.take 2).mapM (inner.read source)
      if items.length < 2 then .error (.wrongLength items.length "an array of length 2")
      else
        checkLength source items.length 2
        return .array done
    | _ => wrongType v "an array of length 2"
  | .map expected key value => fun source v =>
    match v with
    | .object members => do
      let done ← members.mapM fun (k, v) => do
        let _ ← key.read source (.string k)
        return (k, ← value.read source v)
      return .object done
    | _ => wrongType v expected
  | .record name fields => fun source v =>
    match v with
    | .object members => do
      let done ← members.mapM fun (key, v) => (fields.readKey source key v).map fun v => (key, v)
      fields.checkAll members
      return .object done
    | .array items => do
      let done ← fields.readItems source name fields.count 0 items
      checkLength source items.length fields.count
      return .ofMembers done
    | _ => wrongType v ("struct " ++ name)
  | .joint name fields parts => fun source v =>
    match v with
    | .object members => do
      members.forM fun (key, v) => (fields.readKey source key v).map fun _ => ()
      fields.checkAll members
      parts.read (fields.leave members)
      return v
    | _ => wrongType v ("struct " ++ name)
  | .either name alternatives => fun _ v => alternatives.read name v
  | .tagged key alternatives => fun _ v =>
    match cutTag key v with
    | none => .error (.missingField key)
    | some (tag, rest) =>
      match tagName? alternatives.keys tag with
      | none => wrongType tag "variant identifier"
      | some name => do
        checkName alternatives.keys name
        alternatives.readKey .copy name rest
  | .support inner => fun _ v =>
    match v with
    | .null | .bool _ => .ok .null
    | v => inner.read .value v

/-- Reads the member of a key; a key nobody knows may have any value. -/
def Fields.readKey (source : Source) (key : String) (v : Json) : Fields → Except Cause Json
  | .nil => .ok v
  | .cons name _ shape rest =>
    if name = key then shape.read source v else rest.readKey source key v

/-- Reads the items of a record that is written by place. -/
def Fields.readItems (source : Source) (name : String) (count place : Nat) :
    Fields → List Json → Except Cause (List (String × Json))
  | .nil, _ => .ok []
  | .cons key _ shape rest, v :: more => do
    let v ← shape.read source v
    return (key, v) :: (← rest.readItems source name count (place + 1) more)
  | .cons _ need _ rest, [] =>
    if need = .defaulted then rest.readItems source name count (place + 1) []
    else .error (.wrongLength place (recordWithFields name count))

/-- Lets each part take its members from those left over. -/
def Parts.read : Parts → List (String × Json) → Except Cause Unit
  | .nil, _ => .ok ()
  | .record fields rest, members => do
    members.forM fun (key, v) => (fields.readKey .copy key v).map fun _ => ()
    fields.checkAll members
    rest.read (fields.leave members)
  | .others shape rest, members => do
    members.forM fun (_, v) => (shape.read .copy v).map fun _ => ()
    rest.read []

/-- Reads a value against the first shape that fits. -/
def Shapes.read (name : String) (v : Json) : Shapes → Except Cause Json
  | .nil => .error (.noAlternative name)
  | .cons shape rest =>
    match shape.read .copy v with
    | .ok v => .ok v
    | .error _ => rest.read name v

end

end LintServer.Rpc
