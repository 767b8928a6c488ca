import LintServer.Rpc.Vocabulary

/-!
# What an editor says it can do

The shape of the capabilities in a handshake. The server asks for one of them only, whether the
editor can be told to watch files; all others still have to be well formed.
-/

namespace LintServer.Rpc.Shape

/-- Something that can be asked for while the server runs. -/
def dynamic : Shape :=
  loose "DynamicRegistrationClientCapabilities" [("dynamicRegistration", .truth)]

/-- Fields that are truth values. -/
def truths (keys : List String) : List (String × Shape) := keys.map fun key => (key, .truth)

/-- A set of numbers or names that is known to the editor. -/
def valueSet (name : String) (inner : Shape) : Shape := loose name [("valueSet", .list inner)]

/-- Tags that are known to the editor, or only that tags are known. -/
def tagSupport : Entry :=
  orElse "tagSupport" (.support (plain "TagSupport" [("valueSet", .list .int32)]))

/-- The properties that can be filled in later. -/
def resolveSupport (name : String) : Shape := plain name [("properties", .list .text)]

/-- Whether what is shown can be computed anew on demand. -/
def refresh (name : String) : Shape := loose name (truths ["refreshSupport"])

/-- The kinds of markup. -/
def markups : Shape := .list (.choice ["plaintext", "markdown"])

/-! ### The workspace -/

/-- Edits of the workspace. -/
def workspaceEdits : Shape :=
  loose "WorkspaceEditClientCapabilities" [
    ("documentChanges", .truth),
    ("resourceOperations", .list (.choice ["create", "rename", "delete"])),
    ("failureHandling", .choice ["abort", "transactional", "textOnlyTransactional", "undo"]),
    ("normalizesLineEndings", .truth),
    ("changeAnnotationSupport", loose "ChangeAnnotationWorkspaceEditClientCapabilities"
      (truths ["groupsOnLabel"]))]

/-- Symbols of the workspace. -/
def workspaceSymbols : Shape :=
  of "WorkspaceSymbolClientCapabilities" [
    may "dynamicRegistration" .truth, may "symbolKind" (valueSet "SymbolKindCapability" .int32),
    tagSupport, may "resolveSupport" (resolveSupport "WorkspaceSymbolResolveSupportCapability")]

/-- What concerns the workspace as a whole. -/
def workspaceCapabilities : Shape :=
  loose "WorkspaceClientCapabilities" [
    ("applyEdit", .truth), ("workspaceEdit", workspaceEdits),
    ("didChangeConfiguration", dynamic),
    ("didChangeWatchedFiles", loose "DidChangeWatchedFilesClientCapabilities"
      (truths ["dynamicRegistration", "relativePatternSupport"])),
    ("symbol", workspaceSymbols), ("executeCommand", dynamic), ("workspaceFolders", .truth),
    ("configuration", .truth),
    ("semanticTokens", refresh "SemanticTokensWorkspaceClientCapabilities"),
    ("codeLens", refresh "CodeLensWorkspaceClientCapabilities"),
    ("fileOperations", loose "WorkspaceFileOperationsClientCapabilities" (truths
      ["dynamicRegistration", "didCreate", "willCreate", "didRename", "willRename", "didDelete",
        "willDelete"])),
    ("inlineValue", refresh "InlineValueWorkspaceClientCapabilities"),
    ("inlayHint", refresh "InlayHintWorkspaceClientCapabilities"),
    ("diagnostic", refresh "DiagnosticWorkspaceClientCapabilities")]

/-! ### Documents -/

/-- Completions. -/
def completions : Shape :=
  let item := of "CompletionItemCapability" [
    may "snippetSupport" .truth, may "commitCharactersSupport" .truth,
    may "documentationFormat" markups, may "deprecatedSupport" .truth,
    may "preselectSupport" .truth, tagSupport, may "insertReplaceSupport" .truth,
    may "resolveSupport" (resolveSupport "CompletionItemCapabilityResolveSupport"),
    may "insertTextModeSupport" (plain "InsertTextModeSupport" [("valueSet", .list .int32)]),
    may "labelDetailsSupport" .truth]
  loose "CompletionClientCapabilities" [
    ("dynamicRegistration", .truth), ("completionItem", item),
    ("completionItemKind", valueSet "CompletionItemKindCapability" .int32),
    ("contextSupport", .truth), ("insertTextMode", .int32),
    ("completionList", loose "CompletionListCapability" [("itemDefaults", .list .text)])]

/-- Help with calls. -/
def signatures : Shape :=
  let information := loose "SignatureInformationSettings" [
    ("documentationFormat", markups),
    ("parameterInformation", loose "ParameterInformationSettings" (truths ["labelOffsetSupport"])),
    ("activeParameterSupport", .truth)]
  loose "SignatureHelpClientCapabilities" [("dynamicRegistration", .truth),
    ("signatureInformation", information), ("contextSupport", .truth)]

/-- Symbols of a document. -/
def documentSymbols : Shape :=
  of "DocumentSymbolClientCapabilities" [
    may "dynamicRegistration" .truth, may "symbolKind" (valueSet "SymbolKindCapability" .int32),
    may "hierarchicalDocumentSymbolSupport" .truth, tagSupport]

/-- Code actions. -/
def codeActions : Shape :=
  let kinds := plain "CodeActionKindLiteralSupport" [("valueSet", .list .text)]
  loose "CodeActionClientCapabilities" [
    ("dynamicRegistration", .truth),
    ("codeActionLiteralSupport", plain "CodeActionLiteralSupport" [("codeActionKind", kinds)]),
    ("isPreferredSupport", .truth), ("disabledSupport", .truth), ("dataSupport", .truth),
    ("resolveSupport", resolveSupport "CodeActionCapabilityResolveSupport"),
    ("honorsChangeAnnotations", .truth)]

/-- Published diagnostics. -/
def publishedDiagnostics : Shape :=
  of "PublishDiagnosticsClientCapabilities" [
    may "relatedInformation" .truth, tagSupport, may "versionSupport" .truth,
    may "codeDescriptionSupport" .truth, may "dataSupport" .truth]

/-- Folding. -/
def foldings : Shape :=
  loose "FoldingRangeClientCapabilities" [
    ("dynamicRegistration", .truth), ("rangeLimit", .word32), ("lineFoldingOnly", .truth),
    ("foldingRangeKind", valueSet "FoldingRangeKindCapability"
      (.choice ["comment", "imports", "region"])),
    ("foldingRange", loose "FoldingRangeCapability" (truths ["collapsedText"]))]

/-- Tokens with meaning. -/
def semanticTokens : Shape :=
  let full := oneOf "SemanticTokensFullOptions" [.truth, keyed "Delta" [may "delta" .truth]]
  of "SemanticTokensClientCapabilities" [
    may "dynamicRegistration" .truth,
    must "requests" (loose "SemanticTokensClientCapabilitiesRequests"
      [("range", .truth), ("full", full)]),
    must "tokenTypes" (.list .text), must "tokenModifiers" (.list .text),
    must "formats" (.list .text), may "overlappingTokenSupport" .truth,
    may "multilineTokenSupport" .truth, may "serverCancelSupport" .truth,
    may "augmentsSyntaxTokens" .truth]

/-- What concerns single documents. -/
def documentCapabilities : Shape :=
  let goto := loose "GotoCapability" (truths ["dynamicRegistration", "linkSupport"])
  loose "TextDocumentClientCapabilities" [
    ("synchronization", loose "TextDocumentSyncClientCapabilities"
      (truths ["dynamicRegistration", "willSave", "willSaveWaitUntil", "didSave"])),
    ("completion", completions),
    ("hover", loose "HoverClientCapabilities"
      [("dynamicRegistration", .truth), ("contentFormat", markups)]),
    ("signatureHelp", signatures), ("references", dynamic), ("documentHighlight", dynamic),
    ("documentSymbol", documentSymbols), ("formatting", dynamic), ("rangeFormatting", dynamic),
    ("onTypeFormatting", dynamic), ("declaration", goto), ("definition", goto),
    ("typeDefinition", goto), ("implementation", goto), ("codeAction", codeActions),
    ("codeLens", dynamic),
    ("documentLink", loose "DocumentLinkClientCapabilities"
      (truths ["dynamicRegistration", "tooltipSupport"])),
    ("colorProvider", dynamic),
    ("rename", loose "RenameClientCapabilities" [("dynamicRegistration", .truth),
      ("prepareSupport", .truth), ("prepareSupportDefaultBehavior", .int32),
      ("honorsChangeAnnotations", .truth)]),
    ("publishDiagnostics", publishedDiagnostics), ("foldingRange", foldings),
    ("selectionRange", loose "SelectionRangeClientCapabilities" (truths ["dynamicRegistration"])),
    ("linkedEditingRange", dynamic), ("callHierarchy", dynamic),
    ("semanticTokens", semanticTokens), ("moniker", dynamic), ("typeHierarchy", dynamic),
    ("inlineValue", dynamic),
    ("inlayHint", loose "InlayHintClientCapabilities" [("dynamicRegistration", .truth),
      ("resolveSupport", resolveSupport "InlayHintResolveClientCapabilities")]),
    ("diagnostic", loose "DiagnosticClientCapabilities"
      (truths ["dynamicRegistration", "relatedDocumentSupport"]))]

/-! ### Everything else -/

/-- What concerns the editor's windows. -/
def windowCapabilities : Shape :=
  let actions := loose "MessageActionItemCapabilities" (truths ["additionalPropertiesSupport"])
  loose "WindowClientCapabilities" [
    ("workDoneProgress", .truth),
    ("showMessage", loose "ShowMessageRequestClientCapabilities" [("messageActionItem", actions)]),
    ("showDocument", plain "ShowDocumentClientCapabilities" [("support", .truth)])]

/-- What concerns no part of the protocol in particular. -/
def generalCapabilities : Shape :=
  loose "GeneralClientCapabilities" [
    ("regularExpressions", of "RegularExpressionsClientCapabilities"
      [must "engine" .text, may "version" .text]),
    ("markdown", of "MarkdownClientCapabilities"
      [must "parser" .text, may "version" .text, may "allowedTags" (.list .text)]),
    ("staleRequestSupport", plain "StaleRequestSupportClientCapabilities"
      [("cancel", .truth), ("retryOnContentModified", .list .text)]),
    ("positionEncodings", .list .text)]

/-- What the editor says it can do. -/
def capabilities : Shape :=
  loose "ClientCapabilities" [
    ("workspace", workspaceCapabilities), ("textDocument", documentCapabilities),
    ("window", windowCapabilities), ("general", generalCapabilities), ("experimental", .any)]

end LintServer.Rpc.Shape
