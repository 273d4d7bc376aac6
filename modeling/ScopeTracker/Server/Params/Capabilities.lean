import ScopeTracker.Server.Params.Record

/-!
# What an editor can do

When a session is set up, the editor lists what it can do. The server uses none of it, but
refuses a list that is not made as the protocol lays down.
-/

namespace ScopeTracker

namespace Params

namespace Capabilities

/-- Members that say yes or no. -/
def flags (names : List String) : List Member := names.map fun name => may name boolean

/-- A record of members that say yes or no. -/
def flagRecord (name : String) (names : List String) : Reader Unit := shape name (flags names)

/-- The ability to register for something later on. -/
def dynamic : Reader Unit :=
  flagRecord "DynamicRegistrationClientCapabilities" ["dynamicRegistration"]

/-- A record with the names of properties. -/
def properties (name : String) : Reader Unit := shape name [must "properties" (list string)]

/-- The set of the numbered kinds that are known. -/
def numberedKinds (name : String) : Reader Unit :=
  shape name [may "valueSet" (list signedWord)]

/-- The tags that are known. Earlier editors only say yes or no. -/
def tags : Member :=
  let read : Reader Unit := fun _ json =>
    match json with
    | .null | .bool _ => .ok ()
    | json => shape "TagSupport" [must "valueSet" (list signedWord)] .direct json
  ⟨"tagSupport", .free, read⟩

/-- The kinds of formatted text. -/
def markup : Reader Unit := oneOf ["plaintext", "markdown"]

/-! ## The workspace -/

/-- Edits of the workspace. -/
def workspaceEdit : Reader Unit :=
  shape "WorkspaceEditClientCapabilities" [
    may "documentChanges" boolean,
    may "resourceOperations" (list (oneOf ["create", "rename", "delete"])),
    may "failureHandling" (oneOf ["abort", "transactional", "textOnlyTransactional", "undo"]),
    may "normalizesLineEndings" boolean,
    may "changeAnnotationSupport"
      (flagRecord "ChangeAnnotationWorkspaceEditClientCapabilities" ["groupsOnLabel"])]

/-- Symbols of the workspace. -/
def workspaceSymbol : Reader Unit :=
  shape "WorkspaceSymbolClientCapabilities" [
    may "dynamicRegistration" boolean,
    may "symbolKind" (numberedKinds "SymbolKindCapability"),
    tags,
    may "resolveSupport" (properties "WorkspaceSymbolResolveSupportCapability")]

/-- What can be done about the workspace. -/
def workspace : Reader Unit :=
  shape "WorkspaceClientCapabilities" [
    may "applyEdit" boolean,
    may "workspaceEdit" workspaceEdit,
    may "didChangeConfiguration" dynamic,
    may "didChangeWatchedFiles" (flagRecord "DidChangeWatchedFilesClientCapabilities"
      ["dynamicRegistration", "relativePatternSupport"]),
    may "symbol" workspaceSymbol,
    may "executeCommand" dynamic,
    may "workspaceFolders" boolean,
    may "configuration" boolean,
    may "semanticTokens"
      (flagRecord "SemanticTokensWorkspaceClientCapabilities" ["refreshSupport"]),
    may "codeLens" (flagRecord "CodeLensWorkspaceClientCapabilities" ["refreshSupport"]),
    may "fileOperations" (flagRecord "WorkspaceFileOperationsClientCapabilities"
      ["dynamicRegistration", "didCreate", "willCreate", "didRename", "willRename", "didDelete",
        "willDelete"]),
    may "inlineValue" (flagRecord "InlineValueWorkspaceClientCapabilities" ["refreshSupport"]),
    may "inlayHint" (flagRecord "InlayHintWorkspaceClientCapabilities" ["refreshSupport"]),
    may "diagnostic" (flagRecord "DiagnosticWorkspaceClientCapabilities" ["refreshSupport"])]

/-! ## Documents -/

/-- Items of a completion. -/
def completionItem : Reader Unit :=
  shape "CompletionItemCapability" [
    may "snippetSupport" boolean,
    may "commitCharactersSupport" boolean,
    may "documentationFormat" (list markup),
    may "deprecatedSupport" boolean,
    may "preselectSupport" boolean,
    tags,
    may "insertReplaceSupport" boolean,
    may "resolveSupport" (properties "CompletionItemCapabilityResolveSupport"),
    may "insertTextModeSupport"
      (shape "InsertTextModeSupport" [must "valueSet" (list signedWord)]),
    may "labelDetailsSupport" boolean]

/-- Completions. -/
def completion : Reader Unit :=
  shape "CompletionClientCapabilities" [
    may "dynamicRegistration" boolean,
    may "completionItem" completionItem,
    may "completionItemKind" (numberedKinds "CompletionItemKindCapability"),
    may "contextSupport" boolean,
    may "insertTextMode" signedWord,
    may "completionList"
      (shape "CompletionListCapability" [may "itemDefaults" (list string)])]

/-- Hovers. -/
def hover : Reader Unit :=
  shape "HoverClientCapabilities"
    [may "dynamicRegistration" boolean, may "contentFormat" (list markup)]

/-- Help on signatures. -/
def signatureHelp : Reader Unit :=
  shape "SignatureHelpClientCapabilities" [
    may "dynamicRegistration" boolean,
    may "signatureInformation" (shape "SignatureInformationSettings" [
      may "documentationFormat" (list markup),
      may "parameterInformation"
        (flagRecord "ParameterInformationSettings" ["labelOffsetSupport"]),
      may "activeParameterSupport" boolean]),
    may "contextSupport" boolean]

/-- Symbols of a document. -/
def documentSymbol : Reader Unit :=
  shape "DocumentSymbolClientCapabilities" [
    may "dynamicRegistration" boolean,
    may "symbolKind" (numberedKinds "SymbolKindCapability"),
    may "hierarchicalDocumentSymbolSupport" boolean,
    tags]

/-- Jumps to another place. -/
def jump : Reader Unit := flagRecord "GotoCapability" ["dynamicRegistration", "linkSupport"]

/-- Actions on code. -/
def codeAction : Reader Unit :=
  shape "CodeActionClientCapabilities" [
    may "dynamicRegistration" boolean,
    may "codeActionLiteralSupport" (shape "CodeActionLiteralSupport" [
      must "codeActionKind"
        (shape "CodeActionKindLiteralSupport" [must "valueSet" (list string)])]),
    may "isPreferredSupport" boolean,
    may "disabledSupport" boolean,
    may "dataSupport" boolean,
    may "resolveSupport" (properties "CodeActionCapabilityResolveSupport"),
    may "honorsChangeAnnotations" boolean]

/-- Renames. -/
def rename : Reader Unit :=
  shape "RenameClientCapabilities" [
    may "dynamicRegistration" boolean,
    may "prepareSupport" boolean,
    may "prepareSupportDefaultBehavior" signedWord,
    may "honorsChangeAnnotations" boolean]

/-- Diagnostics that the server sends on its own. -/
def publishDiagnostics : Reader Unit :=
  shape "PublishDiagnosticsClientCapabilities" [
    may "relatedInformation" boolean,
    tags,
    may "versionSupport" boolean,
    may "codeDescriptionSupport" boolean,
    may "dataSupport" boolean]

/-- Ranges that can be folded. -/
def foldingRange : Reader Unit :=
  shape "FoldingRangeClientCapabilities" [
    may "dynamicRegistration" boolean,
    may "rangeLimit" word,
    may "lineFoldingOnly" boolean,
    may "foldingRangeKind" (shape "FoldingRangeKindCapability"
      [may "valueSet" (list (oneOf ["comment", "imports", "region"]))]),
    may "foldingRange" (flagRecord "FoldingRangeCapability" ["collapsedText"])]

/-- Semantic tokens. -/
def semanticTokens : Reader Unit :=
  shape "SemanticTokensClientCapabilities" [
    may "dynamicRegistration" boolean,
    must "requests" (shape "SemanticTokensClientCapabilitiesRequests" [
      may "range" boolean,
      may "full" (either "SemanticTokensFullOptions"
        [checked boolean, flagRecord "SemanticTokensFullOptions" ["delta"]])]),
    must "tokenTypes" (list string),
    must "tokenModifiers" (list string),
    must "formats" (list string),
    may "overlappingTokenSupport" boolean,
    may "multilineTokenSupport" boolean,
    may "serverCancelSupport" boolean,
    may "augmentsSyntaxTokens" boolean]

/-- What can be done about documents. -/
def textDocument : Reader Unit :=
  shape "TextDocumentClientCapabilities" [
    may "synchronization" (flagRecord "TextDocumentSyncClientCapabilities"
      ["dynamicRegistration", "willSave", "willSaveWaitUntil", "didSave"]),
    may "completion" completion,
    may "hover" hover,
    may "signatureHelp" signatureHelp,
    may "references" dynamic,
    may "documentHighlight" dynamic,
    may "documentSymbol" documentSymbol,
    may "formatting" dynamic,
    may "rangeFormatting" dynamic,
    may "onTypeFormatting" dynamic,
    may "declaration" jump,
    may "definition" jump,
    may "typeDefinition" jump,
    may "implementation" jump,
    may "codeAction" codeAction,
    may "codeLens" dynamic,
    may "documentLink" (flagRecord "DocumentLinkClientCapabilities"
      ["dynamicRegistration", "tooltipSupport"]),
    may "colorProvider" dynamic,
    may "rename" rename,
    may "publishDiagnostics" publishDiagnostics,
    may "foldingRange" foldingRange,
    may "selectionRange"
      (flagRecord "SelectionRangeClientCapabilities" ["dynamicRegistration"]),
    may "linkedEditingRange" dynamic,
    may "callHierarchy" dynamic,
    may "semanticTokens" semanticTokens,
    may "moniker" dynamic,
    may "typeHierarchy" dynamic,
    may "inlineValue" dynamic,
    may "inlayHint" (shape "InlayHintClientCapabilities" [
      may "dynamicRegistration" boolean,
      may "resolveSupport" (properties "InlayHintResolveClientCapabilities")]),
    may "diagnostic" (flagRecord "DiagnosticClientCapabilities"
      ["dynamicRegistration", "relatedDocumentSupport"])]

/-! ## All of it -/

/-- What can be done in the window. -/
def window : Reader Unit :=
  shape "WindowClientCapabilities" [
    may "workDoneProgress" boolean,
    may "showMessage" (shape "ShowMessageRequestClientCapabilities" [
      may "messageActionItem"
        (flagRecord "MessageActionItemCapabilities" ["additionalPropertiesSupport"])]),
    may "showDocument" (shape "ShowDocumentClientCapabilities" [must "support" boolean])]

/-- What can be done in general. -/
def general : Reader Unit :=
  shape "GeneralClientCapabilities" [
    may "regularExpressions" (shape "RegularExpressionsClientCapabilities"
      [must "engine" string, may "version" string]),
    may "markdown" (shape "MarkdownClientCapabilities"
      [must "parser" string, may "version" string, may "allowedTags" (list string)]),
    may "staleRequestSupport" (shape "StaleRequestSupportClientCapabilities"
      [must "cancel" boolean, must "retryOnContentModified" (list string)]),
    may "positionEncodings" (list string)]

/-- Everything that an editor can do. -/
def all : Reader Unit :=
  shape "ClientCapabilities" [may "workspace" workspace, may "textDocument" textDocument,
    may "window" window, may "general" general, may "experimental" anything]

end Capabilities

end Params

end ScopeTracker
