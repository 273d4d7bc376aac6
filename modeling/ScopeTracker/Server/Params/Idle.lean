import ScopeTracker.Server.Params.Edits

/-!
# Parameters of requests that are not answered

The server knows all requests of the protocol, but answers only some. The others are refused
after their parameters were checked.
-/

namespace ScopeTracker

namespace Params

/-- The member that names a document. -/
def document : Member := must "textDocument" documentId

/-- The parts of most requests: reports of progress, and answers in parts. -/
def reports : List (List Member) := [progress, partialAnswer]

/-- A request about a document that may be answered in parts. -/
def aboutDocument (name : String) (more : List Member) : Reader Unit :=
  mergedShape name (document :: more) reports

/-- A request about a place that may be answered in parts. -/
def aboutPlace (name : String) (more : List Member) : Reader Unit :=
  mergedShape name more (place :: reports)

/-- A request about a place that is answered at once. -/
def aboutPlaceOnce (name : String) (more : List Member) : Reader Unit :=
  mergedShape name more [place, progress]

/-- A request about an item. -/
def aboutItem (name : String) (item : Reader Unit) : Reader Unit :=
  mergedShape name [must "item" item] reports

/-- The options of a formatter: known ones, and any others, which are truth values, numbers or
strings. -/
def formattingOptions : Reader Unit := fun turn json =>
  let own : List Member := [must "tabSize" word, must "insertSpaces" boolean,
    may "trimTrailingWhitespace" boolean, may "insertFinalNewline" boolean,
    may "trimFinalNewlines" boolean]
  let property := either "FormattingProperty" [checked boolean, checked signedWord, checked string]
  let others (json : Json) : Decoded Unit :=
    match json with
    | .object given =>
      (given.filter fun (name, _) => !own.any (·.name = name)).forM fun (_, value) =>
        property .later value
    | _ => .ok ()
  merged "FormattingOptions" own [] (fun _ json => others json) turn json

/-- A request for another form of a document. -/
def aboutFormat (name : String) (more : List Member) : Reader Unit :=
  mergedShape name (document :: more ++ [must "options" formattingOptions]) [progress]

/-- A request about files that will change. -/
def aboutFiles (name file : String) (uris : List String) : Reader Unit :=
  shape name [must "files" (list (shape file (uris.map fun uri => must uri string)))]

/-- How an editor came to ask. -/
def trigger (name : String) (more : List Member) : Reader Unit :=
  shape name ([must "triggerKind" signedWord, may "triggerCharacter" string] ++ more)

/-- The requests that are not answered, with the check of their parameters. -/
def idle : List (String × Reader Unit) := [
  ("textDocument/willSaveWaitUntil",
    shape "WillSaveTextDocumentParams" [document, must "reason" signedWord]),
  ("textDocument/declaration", aboutPlace "GotoDefinitionParams" []),
  ("textDocument/definition", aboutPlace "GotoDefinitionParams" []),
  ("textDocument/typeDefinition", aboutPlace "GotoDefinitionParams" []),
  ("textDocument/implementation", aboutPlace "GotoDefinitionParams" []),
  ("textDocument/references", aboutPlace "ReferenceParams"
    [must "context" (shape "ReferenceContext" [must "includeDeclaration" boolean])]),
  ("textDocument/prepareCallHierarchy", aboutPlaceOnce "CallHierarchyPrepareParams" []),
  ("callHierarchy/incomingCalls", aboutItem "CallHierarchyIncomingCallsParams" callItem),
  ("callHierarchy/outgoingCalls", aboutItem "CallHierarchyOutgoingCallsParams" callItem),
  ("textDocument/prepareTypeHierarchy", aboutPlaceOnce "TypeHierarchyPrepareParams" []),
  ("typeHierarchy/supertypes", aboutItem "TypeHierarchySupertypesParams" typeItem),
  ("typeHierarchy/subtypes", aboutItem "TypeHierarchySubtypesParams" typeItem),
  ("textDocument/documentHighlight", aboutPlace "DocumentHighlightParams" []),
  ("textDocument/documentLink", aboutDocument "DocumentLinkParams" []),
  ("documentLink/resolve", documentLink),
  ("textDocument/codeLens", aboutDocument "CodeLensParams" []),
  ("codeLens/resolve", codeLens),
  ("textDocument/foldingRange", aboutDocument "FoldingRangeParams" []),
  ("textDocument/selectionRange", aboutDocument "SelectionRangeParams"
    [must "positions" (list position)]),
  ("textDocument/documentSymbol", aboutDocument "DocumentSymbolParams" []),
  ("textDocument/semanticTokens/full", aboutDocument "SemanticTokensParams" []),
  ("textDocument/semanticTokens/full/delta", aboutDocument "SemanticTokensDeltaParams"
    [must "previousResultId" string]),
  ("textDocument/semanticTokens/range", aboutDocument "SemanticTokensRangeParams"
    [must "range" range]),
  ("textDocument/inlineValue", mergedShape "InlineValueParams"
    [document, must "range" range, must "context" (shape "InlineValueContext"
      [must "frameId" signedWord, must "stoppedLocation" range])] [progress]),
  ("textDocument/inlayHint", mergedShape "InlayHintParams"
    [document, must "range" range] [progress]),
  ("inlayHint/resolve", inlayHint),
  ("textDocument/moniker", aboutPlace "MonikerParams" []),
  ("textDocument/completion", aboutPlace "CompletionParams"
    [may "context" (trigger "CompletionContext" [])]),
  ("completionItem/resolve", completionItem),
  ("textDocument/diagnostic", aboutDocument "DocumentDiagnosticParams"
    [may "identifier" string, may "previousResultId" string]),
  ("workspace/diagnostic", mergedShape "WorkspaceDiagnosticParams"
    [may "identifier" string, must "previousResultIds"
      (list (shape "PreviousResultId" [must "uri" uri, must "value" string]))] reports),
  ("textDocument/signatureHelp", aboutPlaceOnce "SignatureHelpParams"
    [may "context" (trigger "SignatureHelpContext"
      [must "isRetrigger" boolean, may "activeSignatureHelp" signatureHelp])]),
  ("textDocument/codeAction", aboutDocument "CodeActionParams"
    [must "range" range, must "context" (shape "CodeActionContext"
      [must "diagnostics" (list diagnostic), may "only" (list string),
        may "triggerKind" signedWord])]),
  ("codeAction/resolve", codeAction),
  ("textDocument/documentColor", aboutDocument "DocumentColorParams" []),
  ("textDocument/colorPresentation", aboutDocument "ColorPresentationParams"
    [must "color" (shape "Color" [must "red" number, must "green" number, must "blue" number,
      must "alpha" number]), must "range" range]),
  ("textDocument/formatting", aboutFormat "DocumentFormattingParams" []),
  ("textDocument/rangeFormatting", aboutFormat "DocumentRangeFormattingParams"
    [must "range" range]),
  ("textDocument/onTypeFormatting", mergedShape "DocumentOnTypeFormattingParams"
    [must "ch" string, must "options" formattingOptions] [place]),
  ("textDocument/rename", aboutPlaceOnce "RenameParams" [must "newName" string]),
  ("textDocument/prepareRename", shape "TextDocumentPositionParams" place),
  ("textDocument/linkedEditingRange", aboutPlaceOnce "LinkedEditingRangeParams" []),
  ("workspace/symbol", mergedShape "WorkspaceSymbolParams" [must "query" string]
    [partialAnswer, progress]),
  ("workspaceSymbol/resolve", workspaceSymbol),
  ("workspace/willCreateFiles", aboutFiles "CreateFilesParams" "FileCreate" ["uri"]),
  ("workspace/willRenameFiles", aboutFiles "RenameFilesParams" "FileRename"
    ["oldUri", "newUri"]),
  ("workspace/willDeleteFiles", aboutFiles "DeleteFilesParams" "FileDelete" ["uri"])]

end Params

end ScopeTracker
