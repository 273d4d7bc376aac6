import ScopeTracker.Answer
import ScopeTracker.Server.Params.Workspace
import ScopeTracker.Settings.Discovery
import ScopeTracker.Store

/-!
# The scope server

The server keeps the open documents of an editor and answers its questions about scopes. Its
grammars and limits come from the settings of the workspace; a reload reads them again and
tokenizes every open document anew. Failures of a grammar never fail a request: they are logged,
and the answer is empty.
-/

namespace ScopeTracker

/-- What the server finds outside: the files, and how grammar files are read. -/
structure Host where
  files : FileTree
  reader : DefinitionReader

/-- The grammars and limits that hold for all documents. -/
structure Config where
  registry : Registry
  maxLineLength : Nat

instance : Inhabited Config := ⟨⟨.bundled, defaultMaxLineLength⟩⟩

/-- The configuration of a workspace, that of no settings at all without one. -/
def Config.load (host : Host) : Option Path → Config
  | none => default
  | some root =>
    let (settings, directory) := Settings.discover host.files root
    ⟨settings.buildRegistry host.reader host.files directory, settings.maxLineLength⟩

/-- How serious a log message is. -/
inductive Severity where
  | error
  | info
deriving DecidableEq, Repr

/-- A message for the log of the editor. -/
structure Notice where
  severity : Severity
  message : String
deriving DecidableEq, Repr

/-- The state of the server: its configuration, the root of the workspace, and the open
documents. -/
structure Server where
  config : Config := default
  root : Option Path := none
  documents : Store ReadState := {}

instance : Inhabited Server := ⟨{}⟩

/-- What a request comes to: the new state, the messages for the log, and the answer. -/
structure Served (α : Type) where
  server : Server
  notices : List Notice := []
  answer : α

namespace Server

/-- The command that reads grammars and settings again. -/
def reloadCommand : String := "tmscopes.reloadGrammars"

/-- The message about a document that could not be tokenized. -/
def failureNotice (uri : Uri) (fault : Fault) : Notice :=
  ⟨.error, "tmscopes: tokenization failed for " ++ uri.toString ++ ": " ++ fault.message⟩

/-- The message after a reload. -/
def reloadNotice (documents : Nat) : Notice :=
  ⟨.info, "tmscopes: reloaded grammars for " ++ toString documents ++ " document(s)"⟩

/-- The message once the editor is ready. -/
def readyNotice : Notice := ⟨.info, "TextMate scope server initialized"⟩

/-- Takes up a workspace: the path of its first folder, or else that of its root. A root that is
known already stays. -/
def openWorkspace (server : Server) (host : Host) (folder root : Option Uri) : Server :=
  let found := (folder.bind Uri.filePath?).or (root.bind Uri.filePath?)
  let root := server.root.or found
  { server with root, config := .load host root }

/-- Opens a document. -/
def didOpen (server : Server) (uri : Uri) (text : Text) (languageId : String) (version : Int) :
    Served Unit :=
  let opened := server.documents.openDocument uri text languageId version
    server.config.registry.resolveGrammar server.config.maxLineLength
  { server := { server with documents := opened.state }
    notices := match opened.result with
      | .ok () => []
      | .error fault => [failureNotice uri fault]
    answer := () }

/-- Carries out changes one after the other, each on the text that the one before it left. The
answer is the first fault. -/
def followChanges (document : Document ReadState) :
    List ContentChange → Document ReadState × Option Fault
  | [] => (document, none)
  | change :: rest =>
    let changed := document.applyContentChange change.range change.text
    let (last, fault) := followChanges changed.state rest
    match changed.result with
    | .ok () => (last, fault)
    | .error first => (last, some first)

/-- Carries out changes of an open document, which takes the new version. -/
def didChange (server : Server) (uri : Uri) (version : Int) (changes : List ContentChange) :
    Served Unit :=
  let follow (document : Document ReadState) : Document ReadState × Option Fault :=
    let (changed, fault) := followChanges document changes
    ({ changed with version }, fault)
  let (documents, fault) := server.documents.withOpen uri follow
  { server := { server with documents }
    notices := (fault.join.map (failureNotice uri)).toList
    answer := () }

/-- Closes a document. -/
def didClose (server : Server) (uri : Uri) : Served Unit :=
  { server := { server with documents := (server.documents.close uri).1 }, answer := () }

/-- Asks for the token at a position of a tracked document. There is no answer for other
documents, nor if the grammar fails. -/
def query {α : Type} (server : Server) (uri : Uri) (position : Utf16Position)
    (render : TokenInfo → Buffer → α) : Served (Option α) :=
  let ask (document : Document ReadState) : Document ReadState × Except Fault α :=
    let asked := document.scopeAt (document.buffer.positionOfUtf16 position)
    (asked.state, asked.result.map fun info => render info asked.state.buffer)
  let (documents, asked) := server.documents.withTracked uri ask
  let server := { server with documents }
  match asked with
  | none => { server, answer := none }
  | some (.ok answer) => { server, answer := some answer }
  | some (.error fault) => { server, notices := [failureNotice uri fault], answer := none }

/-- The hover over a position. -/
def hover (server : Server) (uri : Uri) (position : Utf16Position) : Served (Option Hover) :=
  let asked := server.query uri position TokenInfo.hover?
  { server := asked.server, notices := asked.notices, answer := asked.answer.join }

/-- The scope record at a position. -/
def scopeAt (server : Server) (uri : Uri) (position : Utf16Position) :
    Served (Option ScopeInfo) :=
  server.query uri position TokenInfo.scopeInfo

/-- Reads the settings and the grammars again and tokenizes every open document anew. -/
def reloadGrammars (server : Server) (host : Host) : Served Unit :=
  let config := Config.load host server.root
  let (documents, _) :=
    server.documents.reload config.registry.resolveGrammar config.maxLineLength
  { server := { server with config, documents }
    notices := [reloadNotice documents.size]
    answer := () }

end Server

end ScopeTracker
