import ScopeTracker.Server.Params.Record
import ScopeTracker.Text.Buffer

/-!
# Parameters about documents

What an editor sends about the documents that it opens, changes and closes, and about places in
them.
-/

namespace ScopeTracker

/-- A change that an editor reports: a replacement of a range in UTF-16 columns, or of the whole
text if there is no range. -/
structure ContentChange where
  range : Option Utf16Range
  text : Text
deriving DecidableEq, Repr

namespace Params

/-- Reads a position. -/
def position : Reader Utf16Position :=
  record "Position" [must "line" word, must "character" word] fun turn json => do
    return ⟨← required "line" word turn json, ← required "character" word turn json⟩

/-- Reads a range. -/
def range : Reader Utf16Range :=
  record "Range" [must "start" position, must "end" position] fun turn json => do
    return ⟨← required "start" position turn json, ← required "end" position turn json⟩

/-- Reads what names a document. -/
def documentId : Reader Uri :=
  record "TextDocumentIdentifier" [must "uri" uri] (required "uri" uri)

/-- Reads what names a document and its version. -/
def versionedId : Reader (Uri × Int) :=
  record "VersionedTextDocumentIdentifier" [must "uri" uri, must "version" signedWord]
    fun turn json => do
      return (← required "uri" uri turn json, ← required "version" signedWord turn json)

/-- A document that an editor opens. -/
structure DocumentItem where
  uri : Uri
  languageId : String
  version : Int
  text : String

/-- Reads a document that is opened. -/
def documentItem : Reader DocumentItem :=
  record "TextDocumentItem"
    [must "uri" uri, must "languageId" string, must "version" signedWord, must "text" string]
    fun turn json => do
      return {
        uri := ← required "uri" uri turn json
        languageId := ← required "languageId" string turn json
        version := ← required "version" signedWord turn json
        text := ← required "text" string turn json }

/-- Reads a change of a text. -/
def change : Reader ContentChange :=
  record "TextDocumentContentChangeEvent"
    [may "range" range, may "rangeLength" word, must "text" string] fun turn json => do
      let range ← optional "range" range turn json
      return ⟨range, (← required "text" string turn json).toList⟩

/-- Reads the parameters of a notification that a document is opened. -/
def opened : Reader DocumentItem :=
  record "DidOpenTextDocumentParams" [must "textDocument" documentItem]
    (required "textDocument" documentItem)

/-- Reads the parameters of a notification that a document is changed. -/
def changed : Reader ((Uri × Int) × List ContentChange) :=
  record "DidChangeTextDocumentParams"
    [must "textDocument" versionedId, must "contentChanges" (list change)] fun turn json => do
      return (← required "textDocument" versionedId turn json,
        ← required "contentChanges" (list change) turn json)

/-- Reads the parameters of a notification that a document is closed. -/
def closed : Reader Uri :=
  record "DidCloseTextDocumentParams" [must "textDocument" documentId]
    (required "textDocument" documentId)

/-! ## Places -/

/-- Accepts what names a piece of work: a number or a string. -/
def token : Reader Unit := either "NumberOrString" [checked signedWord, checked string]

/-- What a request says about reports of its progress. -/
def progress : List Member := [may "workDoneToken" token]

/-- What a request says about answers that come in parts. -/
def partialAnswer : List Member := [may "partialResultToken" token]

/-- The members that name a position in a document. -/
def place : List Member := [must "textDocument" documentId, must "position" position]

/-- Puts together what names a position in a document. -/
def placeOf : Reader (Uri × Utf16Position) := fun turn json => do
  return (← required "textDocument" documentId turn json,
    ← required "position" position turn json)

/-- Reads the parameters of a request for a hover. -/
def hovered : Reader (Uri × Utf16Position) := merged "HoverParams" [] [place, progress] placeOf

/-- Reads the parameters of a request for a scope record. -/
def scopeQuery : Reader (Uri × Utf16Position) := record "ScopeAtParams" place placeOf

end Params

end ScopeTracker
