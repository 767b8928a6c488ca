import LintServer.Rpc.Params
import LintServer.Server.Task

/-!
# From parameters to requests

What the parameters of a served method ask the server to do.
-/

namespace LintServer.Rpc

/-- Goes into a value along keys. -/
def dig (v : Json) (keys : List String) : Option Json := keys.foldlM (fun v key => v.member? key) v

/-- The URL at some keys. -/
def urlAt? (v : Json) (keys : List String) : Option Url :=
  ((dig v keys).bind Json.string?).bind fun s => (Url.parse s).toOption

/-- The text at some keys. -/
def textAt? (v : Json) (keys : List String) : Option String := (dig v keys).bind Json.string?

/-- What the parameters of a handshake say. -/
def handshakeParams (v : Json) : Handshake.Params where
  rootUrl := urlAt? v ["rootUri"]
  folders :=
    (((dig v ["workspaceFolders"]).bind Json.items?).getD []).filterMap fun f => urlAt? f ["uri"]
  rootPath := (textAt? v ["rootPath"]).map Path.ofString
  dynamicRegistration :=
    (dig v ["capabilities", "workspace", "didChangeWatchedFiles", "dynamicRegistration"]).bind
      Json.bool?

/-- Reads parameters that have to be there. -/
def readParams (shape : Shape) : Option Json → Except String Json
  | none => .error "Missing params field"
  | some v =>
    match shape.read .value v with
    | .ok v => .ok v
    | .error cause => .error cause.text

/-- The request that an opened document stands for. -/
def openRequest? (v : Json) : Option Request := do
  let url ← urlAt? v ["textDocument", "uri"]
  let text ← textAt? v ["textDocument", "text"]
  let version ← (dig v ["textDocument", "version"]).bind Json.int32?
  return .openDocument url ⟨text, version⟩

/-- The request that a changed document stands for. -/
def changeRequest? (v : Json) : Option Request := do
  let url ← urlAt? v ["textDocument", "uri"]
  let version ← (dig v ["textDocument", "version"]).bind Json.int32?
  let changes ← (dig v ["contentChanges"]).bind Json.items?
  return .changeDocument url (changes.filterMap fun c => textAt? c ["text"]) version

/-- The notifications that the server acts on: the shape of their parameters, and the request they
stand for. -/
def served : List (String × Shape × (Json → Option Request)) :=
  [("initialized", .loose "InitializedParams" [], fun _ => some .announce),
    ("textDocument/didOpen", .didOpenParams, openRequest?),
    ("textDocument/didChange", .didChangeParams, changeRequest?),
    ("textDocument/didClose", .didCloseParams,
      fun v => (urlAt? v ["textDocument", "uri"]).map .closeDocument),
    ("workspace/didChangeConfiguration", .configurationParams,
      fun v => (v.member? "settings").map .configure),
    ("workspace/didChangeWatchedFiles", .watchedFilesParams, fun _ => some .filesChanged)]

/-- The notifications that the server knows and does nothing about. -/
def ignored : List String :=
  ["textDocument/willSave", "textDocument/didSave", "workspace/didChangeWorkspaceFolders",
    "workspace/didCreateFiles", "workspace/didRenameFiles", "workspace/didDeleteFiles"]

end LintServer.Rpc
