import LintServer.Rpc.Shape

/-!
# Shapes of the things parameters speak of

Places in documents, edits, diagnostics, completions and symbols, as the editor's protocol writes
them. Numbers that stand for kinds are read as numbers; that there is such a kind is not checked.
-/

namespace LintServer.Rpc

/-- A field, its need and its shape. -/
abbrev Entry := String × Need × Shape

/-- A field that has to be there. -/
def must (key : String) (shape : Shape) : Entry := (key, .required, shape)

/-- A field that may be null or missing. -/
def may (key : String) (shape : Shape) : Entry := (key, .free, .optional shape)

/-- A field that may be missing in any case. -/
def orElse (key : String) (shape : Shape) : Entry := (key, .defaulted, shape)

namespace Shape

/-- A record of some fields. -/
def of (name : String) (fields : List Entry) : Shape := .record name (.ofList fields)

/-- A record whose fields all have to be there. -/
def plain (name : String) (fields : List (String × Shape)) : Shape :=
  of name (fields.map fun (key, shape) => must key shape)

/-- A record whose fields may all be missing. -/
def loose (name : String) (fields : List (String × Shape)) : Shape :=
  of name (fields.map fun (key, shape) => may key shape)

/-- One of several shapes. -/
def oneOf (name : String) (alternatives : List Shape) : Shape := .either name (.ofList alternatives)

/-- A record that is written by key only. -/
def keyed (name : String) (fields : List Entry) : Shape := .joint name (.ofList fields) .nil

/-- A number or a text. -/
def numberOrText : Shape := oneOf "NumberOrString" [.int32, .text]

/-! ### Places -/

/-- A place in a document. -/
def position : Shape := plain "Position" [("line", .word32), ("character", .word32)]

/-- A stretch of a document. -/
def range : Shape := plain "Range" [("start", position), ("end", position)]

/-- A stretch of a named document. -/
def location : Shape := plain "Location" [("uri", .url), ("range", range)]

/-- A document, named by its URL. -/
def document : Shape := plain "TextDocumentIdentifier" [("uri", .url)]

/-! ### Edits -/

/-- A command of the editor. -/
def command : Shape :=
  of "Command" [must "title" .text, must "command" .text, may "arguments" (.list .any)]

/-- A stretch and the text to put there. -/
def textEdit : Shape := plain "TextEdit" [("range", range), ("newText", .text)]

/-- An edit with a note. -/
def annotatedEdit : Shape :=
  .joint "AnnotatedTextEdit" (.ofList [must "annotationId" .text])
    (.record (.ofList [must "range" range, must "newText" .text]) .nil)

/-- The edits of one document. -/
def documentEdit : Shape :=
  plain "TextDocumentEdit" [
    ("textDocument", of "OptionalVersionedTextDocumentIdentifier"
      [must "uri" .url, may "version" .int32]),
    ("edits", .list (oneOf "OneOf" [textEdit, annotatedEdit]))]

/-- Something done to a file as a whole. -/
def fileEdit : Shape :=
  let options := fun (name : String) (keys : List String) =>
    may "options" (loose name (keys.map fun key => (key, .truth)))
  .tagged "kind" (.ofList [
    must "create" (of "CreateFile" [must "uri" .url,
      options "CreateFileOptions" ["overwrite", "ignoreIfExists"], may "annotationId" .text]),
    must "rename" (of "RenameFile" [must "oldUri" .url, must "newUri" .url,
      options "RenameFileOptions" ["overwrite", "ignoreIfExists"], may "annotationId" .text]),
    must "delete" (of "DeleteFile" [must "uri" .url,
      may "options" (loose "DeleteFileOptions" [("recursive", .truth),
        ("ignoreIfNotExists", .truth), ("annotationId", .text)])])])

/-- Edits of several documents. -/
def workspaceEdit : Shape :=
  of "WorkspaceEdit" [
    orElse "changes" (.optional (.map "map" .url (.list textEdit))),
    may "documentChanges" (oneOf "DocumentChanges" [.list documentEdit,
      .list (oneOf "DocumentChangeOperation" [fileEdit, documentEdit])]),
    may "changeAnnotations" (.map "a map" .text (of "ChangeAnnotation"
      [must "label" .text, may "needsConfirmation" .truth, may "description" .text]))]

/-! ### Diagnostics and actions -/

/-- Something the editor shows about a stretch of a document. -/
def diagnostic : Shape :=
  of "Diagnostic" [
    must "range" range, may "severity" .int32, may "code" numberOrText,
    may "codeDescription" (plain "CodeDescription" [("href", .url)]), may "source" .text,
    must "message" .text,
    may "relatedInformation" (.list (plain "DiagnosticRelatedInformation"
      [("location", location), ("message", .text)])),
    may "tags" (.list .int32), may "data" .any]

/-- Something the editor can do about a diagnostic. -/
def codeAction : Shape :=
  of "CodeAction" [
    must "title" .text, may "kind" .text, may "diagnostics" (.list diagnostic),
    may "edit" workspaceEdit, may "command" command, may "isPreferred" .truth,
    may "disabled" (plain "CodeActionDisabled" [("reason", .text)]), may "data" .any]

/-! ### Text for reading -/

/-- A text with markup. -/
def markup : Shape :=
  plain "MarkupContent" [("kind", .choice ["plaintext", "markdown"]), ("value", .text)]

/-- A text with or without markup; `name` is what the choice is called. -/
def prose (name : String) : Shape := oneOf name [.text, markup]

/-! ### Things to resolve -/

/-- A proposal to complete what is typed. -/
def completionItem : Shape :=
  of "CompletionItem" [
    must "label" .text,
    may "labelDetails" (loose "CompletionItemLabelDetails"
      [("detail", .text), ("description", .text)]),
    may "kind" .int32, may "detail" .text, may "documentation" (prose "Documentation"),
    may "deprecated" .truth, may "preselect" .truth, may "sortText" .text, may "filterText" .text,
    may "insertText" .text, may "insertTextFormat" .int32, may "insertTextMode" .int32,
    may "textEdit" (oneOf "CompletionTextEdit" [textEdit, plain "InsertReplaceEdit"
      [("newText", .text), ("insert", range), ("replace", range)]]),
    may "additionalTextEdits" (.list textEdit), may "command" command,
    may "commitCharacters" (.list .text), may "data" .any, may "tags" (.list .int32)]

/-- A link in a document. -/
def documentLink : Shape :=
  of "DocumentLink" [must "range" range, may "target" .url, may "tooltip" .text, may "data" .any]

/-- A command shown in a document. -/
def codeLens : Shape :=
  of "CodeLens" [must "range" range, may "command" command, may "data" .any]

/-- A hint shown in a document. -/
def inlayHint : Shape :=
  let part := of "InlayHintLabelPart" [must "value" .text,
    may "tooltip" (prose "InlayHintLabelPartTooltip"), may "location" location,
    may "command" command]
  of "InlayHint" [
    must "position" position, must "label" (oneOf "InlayHintLabel" [.text, .list part]),
    may "kind" .int32, may "textEdits" (.list textEdit), may "tooltip" (prose "InlayHintTooltip"),
    may "paddingLeft" .truth, may "paddingRight" .truth, may "data" .any]

/-- A symbol found in the workspace. -/
def workspaceSymbol : Shape :=
  of "WorkspaceSymbol" [
    must "name" .text, must "kind" .int32, may "tags" (.list .int32), may "containerName" .text,
    must "location" (oneOf "OneOf" [location, plain "WorkspaceLocation" [("uri", .url)]]),
    may "data" .any]

/-- A symbol in a hierarchy; `tags` is the shape of its tags. -/
def hierarchyItem (name : String) (tags : Shape) : Shape :=
  of name [
    must "name" .text, must "kind" .int32, may "tags" tags, may "detail" .text, must "uri" .url,
    must "range" range, must "selectionRange" range, may "data" .any]

/-- Help with a call that is being typed. -/
def signatureHelp : Shape :=
  let parameter := of "ParameterInformation"
    [must "label" (oneOf "ParameterLabel" [.text, .pair .word32]),
      may "documentation" (prose "Documentation")]
  let signature := of "SignatureInformation"
    [must "label" .text, may "documentation" (prose "Documentation"),
      may "parameters" (.list parameter), may "activeParameter" .word32]
  of "SignatureHelp"
    [must "signatures" (.list signature), may "activeSignature" .word32,
      may "activeParameter" .word32]

end Shape

end LintServer.Rpc
