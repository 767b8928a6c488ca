import LintServer.Rpc.Capabilities

/-!
# Parameters of the methods

For every method of the editor's protocol the shape of its parameters. Many are put together from a
place in a document and from tokens under which the editor wants to hear of progress and of first
results.
-/

namespace LintServer.Rpc.Shape

/-! ### Methods the server serves -/

/-- The parameters of a handshake. -/
def initializeParams : Shape :=
  let folder := plain "WorkspaceFolder" [("uri", .url), ("name", .text)]
  let client := of "ClientInfo" [must "name" .text, may "version" .text]
  of "InitializeParams" [
    may "processId" .word32, may "rootPath" .text, orElse "rootUri" (.optional .url),
    may "initializationOptions" .any, must "capabilities" capabilities,
    orElse "trace" (.optional (.choice ["off", "messages", "verbose"])),
    may "workspaceFolders" (.list folder), may "clientInfo" client, may "locale" .text]

/-- An opened document. -/
def didOpenParams : Shape :=
  plain "DidOpenTextDocumentParams" [("textDocument", plain "TextDocumentItem"
    [("uri", .url), ("languageId", .text), ("version", .int32), ("text", .text)])]

/-- A changed document. -/
def didChangeParams : Shape :=
  let change := of "TextDocumentContentChangeEvent"
    [may "range" range, may "rangeLength" .word32, must "text" .text]
  plain "DidChangeTextDocumentParams" [
    ("textDocument", plain "VersionedTextDocumentIdentifier" [("uri", .url), ("version", .int32)]),
    ("contentChanges", .list change)]

/-- A closed document. -/
def didCloseParams : Shape := plain "DidCloseTextDocumentParams" [("textDocument", document)]

/-- New settings. -/
def configurationParams : Shape := plain "DidChangeConfigurationParams" [("settings", .any)]

/-- Changed files. -/
def watchedFilesParams : Shape :=
  plain "DidChangeWatchedFilesParams"
    [("changes", .list (plain "FileEvent" [("uri", .url), ("type", .int32)]))]

/-! ### Methods the server only knows -/

/-- A part that parameters are put together from. -/
inductive Part
  /-- A place in a document. -/
  | place
  /-- Where the editor wants to hear of progress. -/
  | progress
  /-- Where the editor wants to get first results. -/
  | results
deriving DecidableEq, Repr

/-- The fields of a part. -/
def Part.fields : Part → Fields
  | .place => .ofList [must "textDocument" document, must "position" position]
  | .progress => .ofList [may "workDoneToken" numberOrText]
  | .results => .ofList [may "partialResultToken" numberOrText]

/-- The parts of a list. -/
def partsOf : List Part → Parts
  | [] => .nil
  | part :: rest => .record part.fields (partsOf rest)

/-- Parameters with fields of their own and parts. -/
def joined (name : String) (fields : List Entry) (parts : List Part) : Shape :=
  .joint name (.ofList fields) (partsOf parts)

/-- The parameters of a method about a place in a document. -/
def atPlace (name : String) : Shape := joined name [] [.place, .progress]

/-- The parameters of a method about a place in a document that may have several results. -/
def atPlaceWithResults (name : String) : Shape := joined name [] [.place, .progress, .results]

/-- The parameters of a method about a document that may have several results. -/
def ofDocument (name : String) (more : List Entry) : Shape :=
  joined name (must "textDocument" document :: more) [.progress, .results]

/-- Files with URLs that are given as plain texts. -/
def files (name item : String) (keys : List String) : Shape :=
  plain name [("files", .list (plain item (keys.map fun key => (key, .text))))]

/-- How a document is to be laid out. There may be further properties of any name. -/
def formattingOptions : Shape :=
  .joint "FormattingOptions"
    (.ofList [must "tabSize" .word32, must "insertSpaces" .truth,
      may "trimTrailingWhitespace" .truth, may "insertFinalNewline" .truth,
      may "trimFinalNewlines" .truth])
    (.others (oneOf "FormattingProperty" [.truth, .int32, .text]) .nil)

/-- What help with a call is asked for. -/
def signatureHelpContext : Shape :=
  of "SignatureHelpContext" [
    must "triggerKind" .int32, may "triggerCharacter" .text, must "isRetrigger" .truth,
    may "activeSignatureHelp" signatureHelp]

/-- What code actions are asked for. -/
def codeActionContext : Shape :=
  of "CodeActionContext" [
    must "diagnostics" (.list diagnostic), may "only" (.list .text), may "triggerKind" .int32]

/-- Methods about documents. -/
def documentMethods : List (String × Shape) :=
  [("textDocument/willSaveWaitUntil",
      plain "WillSaveTextDocumentParams" [("textDocument", document), ("reason", .int32)]),
    ("textDocument/declaration", atPlaceWithResults "GotoDefinitionParams"),
    ("textDocument/definition", atPlaceWithResults "GotoDefinitionParams"),
    ("textDocument/typeDefinition", atPlaceWithResults "GotoDefinitionParams"),
    ("textDocument/implementation", atPlaceWithResults "GotoDefinitionParams"),
    ("textDocument/references", joined "ReferenceParams"
      [must "context" (plain "ReferenceContext" [("includeDeclaration", .truth)])]
      [.place, .progress, .results]),
    ("textDocument/prepareCallHierarchy", atPlace "CallHierarchyPrepareParams"),
    ("textDocument/prepareTypeHierarchy", atPlace "TypeHierarchyPrepareParams"),
    ("textDocument/documentHighlight", atPlaceWithResults "DocumentHighlightParams"),
    ("textDocument/documentLink", ofDocument "DocumentLinkParams" []),
    ("textDocument/hover", atPlace "HoverParams"),
    ("textDocument/codeLens", ofDocument "CodeLensParams" []),
    ("textDocument/foldingRange", ofDocument "FoldingRangeParams" []),
    ("textDocument/selectionRange", ofDocument "SelectionRangeParams"
      [must "positions" (.list position)]),
    ("textDocument/documentSymbol", ofDocument "DocumentSymbolParams" []),
    ("textDocument/semanticTokens/full", ofDocument "SemanticTokensParams" []),
    ("textDocument/semanticTokens/full/delta", ofDocument "SemanticTokensDeltaParams"
      [must "previousResultId" .text]),
    ("textDocument/semanticTokens/range", ofDocument "SemanticTokensRangeParams"
      [must "range" range]),
    ("textDocument/inlineValue", joined "InlineValueParams"
      [must "textDocument" document, must "range" range, must "context" (plain "InlineValueContext"
        [("frameId", .int32), ("stoppedLocation", range)])] [.progress]),
    ("textDocument/inlayHint", joined "InlayHintParams"
      [must "textDocument" document, must "range" range] [.progress]),
    ("textDocument/moniker", atPlaceWithResults "MonikerParams"),
    ("textDocument/completion", joined "CompletionParams"
      [may "context" (of "CompletionContext"
        [must "triggerKind" .int32, may "triggerCharacter" .text])]
      [.place, .progress, .results]),
    ("textDocument/diagnostic", ofDocument "DocumentDiagnosticParams"
      [may "identifier" .text, may "previousResultId" .text]),
    ("textDocument/signatureHelp", joined "SignatureHelpParams"
      [may "context" signatureHelpContext] [.place, .progress]),
    ("textDocument/codeAction", ofDocument "CodeActionParams"
      [must "range" range, must "context" codeActionContext]),
    ("textDocument/documentColor", ofDocument "DocumentColorParams" []),
    ("textDocument/colorPresentation", ofDocument "ColorPresentationParams"
      [must "color" (plain "Color"
        [("red", .float), ("green", .float), ("blue", .float), ("alpha", .float)]),
        must "range" range]),
    ("textDocument/formatting", joined "DocumentFormattingParams"
      [must "textDocument" document, must "options" formattingOptions] [.progress]),
    ("textDocument/rangeFormatting", joined "DocumentRangeFormattingParams"
      [must "textDocument" document, must "range" range, must "options" formattingOptions]
      [.progress]),
    ("textDocument/onTypeFormatting", joined "DocumentOnTypeFormattingParams"
      [must "ch" .text, must "options" formattingOptions] [.place]),
    ("textDocument/rename", joined "RenameParams" [must "newName" .text] [.place, .progress]),
    ("textDocument/prepareRename", plain "TextDocumentPositionParams"
      [("textDocument", document), ("position", position)]),
    ("textDocument/linkedEditingRange", atPlace "LinkedEditingRangeParams")]

/-- Methods about something an earlier answer named. -/
def itemMethods : List (String × Shape) :=
  let ofItem := fun (name : String) (item : Shape) =>
    joined name [must "item" item] [.progress, .results]
  let called := hierarchyItem "CallHierarchyItem" (.list .int32)
  let typed := hierarchyItem "TypeHierarchyItem" .int32
  [("callHierarchy/incomingCalls", ofItem "CallHierarchyIncomingCallsParams" called),
    ("callHierarchy/outgoingCalls", ofItem "CallHierarchyOutgoingCallsParams" called),
    ("typeHierarchy/supertypes", ofItem "TypeHierarchySupertypesParams" typed),
    ("typeHierarchy/subtypes", ofItem "TypeHierarchySubtypesParams" typed),
    ("documentLink/resolve", documentLink), ("codeLens/resolve", codeLens),
    ("inlayHint/resolve", inlayHint), ("completionItem/resolve", completionItem),
    ("codeAction/resolve", codeAction), ("workspaceSymbol/resolve", workspaceSymbol)]

/-- Methods about the workspace. -/
def workspaceMethods : List (String × Shape) :=
  [("workspace/diagnostic", joined "WorkspaceDiagnosticParams"
      [may "identifier" .text, must "previousResultIds" (.list (plain "PreviousResultId"
        [("uri", .url), ("value", .text)]))] [.progress, .results]),
    ("workspace/symbol", joined "WorkspaceSymbolParams" [must "query" .text]
      [.results, .progress]),
    ("workspace/willCreateFiles", files "CreateFilesParams" "FileCreate" ["uri"]),
    ("workspace/willRenameFiles", files "RenameFilesParams" "FileRename" ["oldUri", "newUri"]),
    ("workspace/willDeleteFiles", files "DeleteFilesParams" "FileDelete" ["uri"]),
    ("workspace/executeCommand", joined "ExecuteCommandParams"
      [must "command" .text, orElse "arguments" (.list .any)] [.progress])]

/-- The requests of the protocol that the server knows and does not serve, with the shapes of
their parameters. -/
def unserved : List (String × Shape) := documentMethods ++ itemMethods ++ workspaceMethods

end LintServer.Rpc.Shape
