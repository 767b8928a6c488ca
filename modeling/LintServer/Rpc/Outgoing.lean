import LintServer.Server.Event

/-!
# What the editor is sent

The JSON values of the editor's protocol that the server writes: the answer to a handshake,
published diagnostics, shown messages, notes, and the request to watch files.
-/

namespace LintServer.Rpc

/-- The answer to a handshake that succeeded: texts are sent as a whole. -/
def handshakeResult : Json :=
  .ofMembers [
    ("capabilities", .ofMembers [("textDocumentSync", .nat 1)]),
    ("serverInfo", .ofMembers [("name", .string "standard-language-server"),
      ("version", .string "0.1.0")])]

/-- An error as the protocol writes it. -/
structure Error where
  code : Int
  message : String
  data : Option Json

/-- The answer to a handshake that failed, with whether it should be tried again. -/
def handshakeError (e : LoadError) : Error :=
  ⟨99, e.text, some (.ofMembers [("retry", .bool e.retry)])⟩

/-- An error as a value. -/
def Error.toJson (e : Error) : Json :=
  .ofMembers ([("code", .int e.code), ("message", .string e.message)]
    ++ (e.data.map fun d => ("data", d)).toList)

/-- The parameters of published diagnostics. -/
def publishParams (url : Url) (diagnostics : List Diagnostic) : Json :=
  .ofMembers [("uri", .string url.text), ("diagnostics", .array (diagnostics.map Diagnostic.toJson))]

/-- A notification. -/
def notification (method : String) (params : Json) : Json :=
  .ofMembers [("jsonrpc", .string "2.0"), ("method", .string method), ("params", params)]

/-- A message of some type. -/
def messageParams (type : Nat) (text : String) : Json :=
  .ofMembers [("type", .nat type), ("message", .string text)]

/-- Published diagnostics. -/
def publishMessage (url : Url) (diagnostics : List Diagnostic) : Json :=
  notification "textDocument/publishDiagnostics" (publishParams url diagnostics)

/-- A failure shown to the user. -/
def showMessage (text : String) : Json := notification "window/showMessage" (messageParams 1 text)

/-- A note for the editor's log. -/
def noteMessage (level : NoteLevel) (text : String) : Json :=
  notification "window/logMessage" (messageParams level.number text)

/-- The request to watch files; `id` is the number of the request. -/
def watchRequest (id : Nat) (globs : List String) : Json :=
  let watchers := globs.map fun g => Json.ofMembers [("globPattern", .string g)]
  let registration := Json.ofMembers [
    ("id", .string "standard-ls/watched-files"),
    ("method", .string "workspace/didChangeWatchedFiles"),
    ("registerOptions", .ofMembers [("watchers", .array watchers)])]
  .ofMembers [("jsonrpc", .string "2.0"), ("id", .nat id),
    ("method", .string "client/registerCapability"),
    ("params", .ofMembers [("registrations", .array [registration])])]

end LintServer.Rpc
