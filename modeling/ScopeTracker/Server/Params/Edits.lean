import ScopeTracker.Server.Params.Document

/-!
# Edits, commands and diagnostics in parameters

An editor may send back what a server sent before: edits of the workspace, commands, diagnostics,
and items that carry them.
-/

namespace ScopeTracker

namespace Params

/-- What names a place in any document. -/
def location : Reader Unit := shape "Location" [must "uri" uri, must "range" range]

/-- A command with its title. -/
def titledCommand : Reader Unit :=
  shape "Command" [must "title" string, must "command" string, may "arguments" (list anything)]

/-- A text with the kind of its format. -/
def markupContent : Reader Unit :=
  shape "MarkupContent" [must "kind" (oneOf ["plaintext", "markdown"]), must "value" string]

/-- A text that may have a format, under the name of its kinds. -/
def describedBy (name : String) : Reader Unit := either name [checked string, markupContent]

/-! ## Edits -/

/-- The members of an edit. -/
def textEditMembers : List Member := [must "range" range, must "newText" string]

/-- An edit of a text. -/
def textEdit : Reader Unit := shape "TextEdit" textEditMembers

/-- An edit of a text that may be explained. -/
def explainedEdit : Reader Unit :=
  either "OneOf"
    [textEdit, mergedShape "AnnotatedTextEdit" [must "annotationId" string] [textEditMembers]]

/-- The edits of a document. -/
def documentEdit : Reader Unit :=
  shape "TextDocumentEdit" [
    must "textDocument" (shape "OptionalVersionedTextDocumentIdentifier"
      [must "uri" uri, may "version" signedWord]),
    must "edits" (list explainedEdit)]

/-- A file that is created, renamed or deleted. -/
def fileChange : Reader Unit := fun _ json =>
  let options (first second : String) (more : List Member) : Member :=
    may "options" (shape "FileOptions" ([may first boolean, may second boolean] ++ more))
  let explained := may "annotationId" string
  let members : List Member := match json.get? "kind" with
    | some (.string "create") =>
      [must "uri" uri, options "overwrite" "ignoreIfExists" [], explained]
    | some (.string "rename") =>
      [must "oldUri" uri, must "newUri" uri, options "overwrite" "ignoreIfExists" [], explained]
    | some (.string "delete") =>
      [must "uri" uri, options "recursive" "ignoreIfNotExists" [explained]]
    | _ => [must "kind" (oneOf ["create", "rename", "delete"])]
  match json with
  | .object given => checkObject members .later given
  | json => wrongKind json "a file operation"

/-- The changes of documents in an edit of the workspace. -/
def documentChanges : Reader Unit :=
  either "DocumentChanges" [
    checked (list documentEdit),
    checked (list (either "DocumentChangeOperation" [fileChange, documentEdit]))]

/-- Accepts a text that is a URI. -/
def isUri (s : String) : Decoded Unit := checked uri .direct (.string s)

/-- An edit of the workspace. -/
def workspaceEdit : Reader Unit :=
  shape "WorkspaceEdit" [
    mayEnd "changes" (table "map" isUri (checked (list textEdit))),
    may "documentChanges" documentChanges,
    may "changeAnnotations" (table "a map" (fun _ => .ok ()) (shape "ChangeAnnotation"
      [must "label" string, may "needsConfirmation" boolean, may "description" string]))]

/-! ## Items -/

/-- A diagnostic. -/
def diagnostic : Reader Unit :=
  shape "Diagnostic" [
    must "range" range,
    may "severity" signedWord,
    may "code" token,
    may "codeDescription" (shape "CodeDescription" [must "href" uri]),
    may "source" string,
    must "message" string,
    may "relatedInformation" (list (shape "DiagnosticRelatedInformation"
      [must "location" location, must "message" string])),
    may "tags" (list signedWord),
    may "data" anything]

/-- An action on code. -/
def codeAction : Reader Unit :=
  shape "CodeAction" [
    must "title" string,
    may "kind" string,
    may "diagnostics" (list diagnostic),
    may "edit" workspaceEdit,
    may "command" titledCommand,
    may "isPreferred" boolean,
    may "disabled" (shape "CodeActionDisabled" [must "reason" string]),
    may "data" anything]

/-- A lens over code. -/
def codeLens : Reader Unit :=
  shape "CodeLens" [must "range" range, may "command" titledCommand, may "data" anything]

/-- A link in a document. -/
def documentLink : Reader Unit :=
  shape "DocumentLink"
    [must "range" range, may "target" uri, may "tooltip" string, may "data" anything]

/-- An item of a completion. -/
def completionItem : Reader Unit :=
  shape "CompletionItem" [
    must "label" string,
    may "labelDetails"
      (shape "CompletionItemLabelDetails" [may "detail" string, may "description" string]),
    may "kind" signedWord,
    may "detail" string,
    may "documentation" (describedBy "Documentation"),
    may "deprecated" boolean,
    may "preselect" boolean,
    may "sortText" string,
    may "filterText" string,
    may "insertText" string,
    may "insertTextFormat" signedWord,
    may "insertTextMode" signedWord,
    may "textEdit" (either "CompletionTextEdit" [textEdit,
      shape "InsertReplaceEdit" [must "newText" string, must "insert" range,
        must "replace" range]]),
    may "additionalTextEdits" (list textEdit),
    may "command" titledCommand,
    may "commitCharacters" (list string),
    may "data" anything,
    may "tags" (list signedWord)]

/-- A hint inside a line. -/
def inlayHint : Reader Unit :=
  let part := shape "InlayHintLabelPart" [
    must "value" string,
    may "tooltip" (describedBy "InlayHintLabelPartTooltip"),
    may "location" location,
    may "command" titledCommand]
  shape "InlayHint" [
    must "position" position,
    must "label" (either "InlayHintLabel" [checked string, checked (list part)]),
    may "kind" signedWord,
    may "textEdits" (list textEdit),
    may "tooltip" (describedBy "InlayHintTooltip"),
    may "paddingLeft" boolean,
    may "paddingRight" boolean,
    may "data" anything]

/-- An item of a hierarchy, under its name and with its tags. -/
def hierarchyItem {α : Type} (name : String) (tags : Reader α) : Reader Unit :=
  shape name [
    must "name" string,
    must "kind" signedWord,
    may "tags" tags,
    may "detail" string,
    must "uri" uri,
    must "range" range,
    must "selectionRange" range,
    may "data" anything]

/-- An item of a call hierarchy. -/
def callItem : Reader Unit := hierarchyItem "CallHierarchyItem" (list signedWord)

/-- An item of a type hierarchy. It has a single tag. -/
def typeItem : Reader Unit := hierarchyItem "TypeHierarchyItem" signedWord

/-- A symbol of the workspace. -/
def workspaceSymbol : Reader Unit :=
  shape "WorkspaceSymbol" [
    must "name" string,
    must "kind" signedWord,
    may "tags" (list signedWord),
    may "containerName" string,
    must "location" (either "OneOf" [location, shape "WorkspaceLocation" [must "uri" uri]]),
    may "data" anything]

/-- Help on a signature that was shown before. -/
def signatureHelp : Reader Unit :=
  let pair : Reader Unit := fun turn json => do
    let numbers ← list word turn json
    if numbers.length = 2 then .ok () else wrongLength numbers.length "an array of length 2"
  let parameter := shape "ParameterInformation" [
    must "label" (either "ParameterLabel" [checked string, pair]),
    may "documentation" (describedBy "Documentation")]
  let signature := shape "SignatureInformation" [
    must "label" string,
    may "documentation" (describedBy "Documentation"),
    may "parameters" (list parameter),
    may "activeParameter" word]
  shape "SignatureHelp" [must "signatures" (list signature), may "activeSignature" word,
    may "activeParameter" word]

end Params

end ScopeTracker
