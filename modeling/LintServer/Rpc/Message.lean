import LintServer.Rpc.Outgoing

/-!
# Messages

A message of the editor names a method and may carry parameters and an identifier. One with an
identifier is a request and is answered; one without is a notification.
-/

namespace LintServer.Rpc

/-- The identifier of a request. -/
inductive Id
  | number (value : Int64)
  | text (value : String)
  | null
deriving DecidableEq, Repr

/-- Reads an identifier. -/
def Id.ofJson? : Json → Option Id
  | .null => some .null
  | .string s => some (.text s)
  | v => v.int64?.map .number

/-- An identifier as a value. -/
def Id.toJson : Id → Json
  | .number n => .int n.toInt
  | .text s => .string s
  | .null => .null

/-- A message of the editor. Null parameters are parameters, and a null identifier is one. -/
structure Message where
  method : String
  params : Option Json
  id : Option Id

/-- Reads a message, written by key or by place. A method that is not given has no name. -/
def Message.ofJson? (v : Json) : Option Message :=
  match v.slots ["jsonrpc", "method", "params", "id"] with
  | some [some (.string "2.0"), method, params, id] => do
    let method ← method.elim (some "") Json.string?
    match id with
    | none => return ⟨method, params, none⟩
    | some id => return ⟨method, params, some (← Id.ofJson? id)⟩
  | _ => none

/-! ### Messages as they are written

An object read as it is written may have several members of one key. Of the keys that count there
may be only one member each. -/

/-- How many members an object has of a key. -/
def countOf (key : String) (members : List (String × Json)) : Nat :=
  members.countP fun m => m.1 == key

/-- Whether an object has at most one member of each of some keys. -/
def isPlain (keys : List String) : Json → Bool
  | .object members => keys.all fun key => countOf key members ≤ 1
  | _ => true

/-- Whether a value is the error of an answer: a code and a message, perhaps with data, by key, or
all three by place. -/
def isFault (e : Json) : Bool :=
  let keys := ["code", "message", "data"]
  match e.slots keys with
  | some [some code, some message, data] =>
    code.int64?.isSome && message.string?.isSome && (e.isObject || data.isSome) && isPlain keys e
  | _ => false

/-- What a value says that answers a request of the server: the identifier of the request, and the
result if it is no error. -/
def response? : Json → Option (Id × Option Json)
  | .object members => do
    let only := fun key => if countOf key members = 1 then members.lookup key else none
    guard ((only "jsonrpc").bind Json.string? = some "2.0")
    let id ← (only "id").bind Id.ofJson?
    match only "result" with
    | some result => return (id, some result)
    | none =>
      guard ((only "error").any isFault)
      return (id, none)
  | _ => none

/-- Whether a value is written so that it can be read as a message. -/
def isMessage (v : Json) : Bool := isPlain ["jsonrpc", "method", "params", "id"] v

/-- The answer to a request. -/
inductive Response
  | result (id : Id) (value : Json)
  | error (id : Id) (error : Error)

/-- An answer as a value. -/
def Response.toJson : Response → Json
  | .result id value =>
    .ofMembers [("jsonrpc", .string "2.0"), ("id", id.toJson), ("result", value)]
  | .error id e => .ofMembers [("jsonrpc", .string "2.0"), ("id", id.toJson), ("error", e.toJson)]

namespace Error

/-- A text that is no JSON. -/
def parseError : Error := ⟨-32700, "Parse error", none⟩

/-- A value that is no message, or a message at the wrong time. -/
def invalidRequest : Error := ⟨-32600, "Invalid request", none⟩

/-- A method that is not there; `data` is its name when nobody knows it. -/
def methodNotFound (data : Option String) : Error := ⟨-32601, "Method not found", data.map .string⟩

/-- Parameters that do not fit. -/
def invalidParams (text : String) : Error := ⟨-32602, text, none⟩

/-- A request before the handshake. -/
def notInitialized : Error := ⟨-32002, "Server not initialized", none⟩

/-- A request that was taken back. -/
def canceled : Error := ⟨-32800, "Canceled", none⟩

end Error

end LintServer.Rpc
