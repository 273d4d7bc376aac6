import ScopeTracker.Server.Basic
import ScopeTracker.Server.Params.Idle

/-!
# Sessions

An editor talks to the server in messages: requests, which have an id and are answered, and
notifications. A session goes through phases. Before it is set up it answers nothing but the
request that sets it up, after the shutdown nothing but the request to exit, and once it has
exited nothing at all.
-/

namespace ScopeTracker

/-- Why a request is refused. -/
structure RpcError where
  code : Int
  message : String
  data : Option Json := none

namespace RpcError

/-- The session is not set up yet. -/
def notReady : RpcError := ⟨-32002, "Server not initialized", none⟩

/-- The request does not fit the phase, or names a notification. -/
def invalidRequest : RpcError := ⟨-32600, "Invalid request", none⟩

/-- There is no such method, or it does nothing here. -/
def methodNotFound : RpcError := ⟨-32601, "Method not found", none⟩

/-- The parameters are wrong. -/
def invalidParams (message : String) : RpcError := ⟨-32602, message, none⟩

/-- The error as it is sent. -/
def toJson (error : RpcError) : Json :=
  let data := match error.data with
    | some data => [("data", data)]
    | none => []
  .object ([("code", .int error.code), ("message", .string error.message)] ++ data)

end RpcError

/-- A message from the editor. -/
structure Message where
  method : String
  id : Option Json
  params : Option Json

/-- Reads a message. A message without a method has the empty one. -/
def Message.ofJson (json : Json) : Message :=
  let method := match json.get? "method" with
    | some (.string method) => method
    | _ => ""
  ⟨method, json.get? "id", json.get? "params"⟩

/-- What a message comes to: the answer, if there is one, and what is sent beside it. -/
structure Reply where
  response : Option Json := none
  notices : List Notice := []

/-! ## Sending -/

/-- A position as it is sent. -/
def Utf16Position.toJson (position : Utf16Position) : Json :=
  .object [("line", .nat position.line), ("character", .nat position.character)]

/-- A range as it is sent. -/
def Utf16Range.toJson (range : Utf16Range) : Json :=
  .object [("start", range.start.toJson), ("end", range.stop.toJson)]

/-- A hover as it is sent. -/
def Hover.toJson (hover : Hover) : Json :=
  .object [
    ("contents", .object [("kind", .string "markdown"), ("value", .string hover.markdown)]),
    ("range", hover.range.toJson)]

/-- A scope record as it is sent. -/
def ScopeInfo.toJson (info : ScopeInfo) : Json :=
  .object [("range", info.range.toJson), ("text", .string (String.ofList info.text)),
    ("scopes", .array (info.scopes.map .string))]

/-- A message for the log as it is sent. -/
def Notice.toJson (notice : Notice) : Json :=
  let severity : Nat := match notice.severity with
    | .error => 1
    | .info => 3
  .object [("jsonrpc", .string "2.0"), ("method", .string "window/logMessage"),
    ("params", .object [("type", .nat severity), ("message", .string notice.message)])]

/-- What the server can do, as it is sent when the session is set up. -/
def Server.abilities : Json :=
  .object [("capabilities", .object [
    ("textDocumentSync", .nat 2),
    ("hoverProvider", .bool true),
    ("executeCommandProvider", .object [
      ("commands", .array [.string Server.reloadCommand])])])]

/-! ## Methods -/

/-- Something an editor can ask for or report. -/
inductive Method where
  /-- Sets up the session. -/
  | setUp
  /-- Reports that the editor is ready. -/
  | ready
  | shutDown
  | exit
  | didOpen
  | didChange
  | didClose
  | hover
  | executeCommand
  | scopeAt
  /-- A request of the protocol that the server does not answer. -/
  | idleRequest
  /-- A notification of the protocol that changes nothing. -/
  | idleNotification
  /-- Calls off a request. All requests are answered at once, so that there is none to call
  off. -/
  | cancel
deriving DecidableEq, Repr

namespace Method

/-- Notifications of the protocol that change nothing. -/
def idleNotifications : List String := [
  "textDocument/willSave", "textDocument/didSave", "workspace/didChangeConfiguration",
  "workspace/didChangeWorkspaceFolders", "workspace/didChangeWatchedFiles",
  "workspace/didCreateFiles", "workspace/didRenameFiles", "workspace/didDeleteFiles"]

/-- The method with a name. -/
def ofName? : String → Option Method
  | "initialize" => some setUp
  | "initialized" => some ready
  | "shutdown" => some shutDown
  | "exit" => some exit
  | "textDocument/didOpen" => some didOpen
  | "textDocument/didChange" => some didChange
  | "textDocument/didClose" => some didClose
  | "textDocument/hover" => some hover
  | "workspace/executeCommand" => some executeCommand
  | "textmate/scopeAt" => some scopeAt
  | "$/cancelRequest" => some cancel
  | name =>
    if (Params.idle.lookup name).isSome then some idleRequest
    else if idleNotifications.contains name then some idleNotification
    else none

/-- Whether a method is a notification. -/
def isNotification : Method → Bool
  | ready | exit | didOpen | didChange | didClose | idleNotification | cancel => true
  | _ => false

end Method

/-! ## The phases -/

/-- The phase of a session. -/
inductive Phase where
  /-- The session is not set up yet. -/
  | fresh
  | ready
  | shutDown
  | exited
deriving DecidableEq, Repr

/-- A session: its phase, and the state of the server. -/
structure Session where
  phase : Phase := .fresh
  server : Server := {}

instance : Inhabited Session := ⟨{}⟩

namespace Session

/-- What is said of messages that come after the exit. -/
def exitedMessage : String := "language server has exited"

/-- An answer to a request. Without an id there is none. -/
def respond (id : Option Json) (result : Except RpcError Json) : Option Json :=
  id.map fun id =>
    let outcome := match result with
      | .ok value => ("result", value)
      | .error error => ("error", error.toJson)
    .object [("jsonrpc", .string "2.0"), outcome, ("id", id)]

/-- The refusal of a message for which the session is in the wrong phase. -/
def refuse (session : Session) (id : Option Json) : Session × Reply :=
  let error := if session.phase = .fresh then RpcError.notReady else .invalidRequest
  (session, { response := respond id (.error error) })

/-- Carries out a request or a notification with its parameters read. The answer of a request
stands beside the new state of the server. -/
def perform {α : Type} (session : Session) (message : Message)
    (read : Params.Reader α) (run : α → Served (Except RpcError Json)) :
    Session × Reply :=
  let fail (text : String) : Session × Reply :=
    (session, { response := respond message.id (.error (.invalidParams text)) })
  match message.params with
  | none => fail "Missing params field"
  | some params =>
    match read .direct params with
    | .error text => fail text
    | .ok value =>
      let served := run value
      ({ session with server := served.server },
        { response := respond message.id served.answer, notices := served.notices })

/-- An answer that may be missing as a result. -/
def resultOf {α : Type} (toJson : α → Json) (served : Served (Option α)) :
    Served (Except RpcError Json) :=
  { server := served.server, notices := served.notices
    answer := .ok ((served.answer.map toJson).getD .null) }

/-- The result of something that has no answer. -/
def resultless (served : Served Unit) : Served (Except RpcError Json) :=
  { server := served.server, notices := served.notices, answer := .ok .null }

/-- Carries out a method in a session that is set up. -/
def run (session : Session) (host : Host) (message : Message) :
    Method → Session × Reply
  | .setUp =>
    session.perform message Params.workspace fun (folder, root) =>
      { server := session.server.openWorkspace host folder root, answer := .ok Server.abilities }
  | .ready =>
    session.perform message Params.readied fun () =>
      { server := session.server, notices := [Server.readyNotice], answer := .ok .null }
  | .shutDown =>
    match message.params with
    | none => (session, { response := respond message.id (.ok .null) })
    | some params =>
      let error := RpcError.invalidParams ("Unexpected params: " ++ params.compact)
      (session, { response := respond message.id (.error error) })
  | .didOpen =>
    session.perform message Params.opened fun item =>
      resultless (session.server.didOpen item.uri item.text.toList item.languageId item.version)
  | .didChange =>
    session.perform message Params.changed fun ((uri, version), changes) =>
      resultless (session.server.didChange uri version changes)
  | .didClose =>
    session.perform message Params.closed fun uri => resultless (session.server.didClose uri)
  | .hover =>
    session.perform message Params.hovered fun (uri, position) =>
      resultOf Hover.toJson (session.server.hover uri position)
  | .scopeAt =>
    session.perform message Params.scopeQuery fun (uri, position) =>
      resultOf ScopeInfo.toJson (session.server.scopeAt uri position)
  | .executeCommand =>
    session.perform message Params.command fun command =>
      if command = Server.reloadCommand then resultless (session.server.reloadGrammars host)
      else
        { server := session.server
          answer := .error (.invalidParams ("unknown command: " ++ command)) }
  | .idleRequest =>
    session.perform message ((Params.idle.lookup message.method).getD Params.anything) fun () =>
      { server := session.server, answer := .error .methodNotFound }
  | .idleNotification | .cancel => (session, {})
  | .exit => ({ session with phase := .exited }, {})

/-- Carries out a method unless it is called in the wrong way: a notification with an id is
refused, a request without one passed over. -/
def call (session : Session) (host : Host) (message : Message) (method : Method) :
    Session × Reply :=
  if method.isNotification then
    if message.id.isSome then
      (session, { response := respond message.id (.error .invalidRequest) })
    else session.run host message method
  else if message.id.isSome then session.run host message method
  else (session, {})

/-- Whether a reply tells the editor that its request succeeded. -/
def succeeded (reply : Reply) : Bool := (reply.response.bind (·.get? "result")).isSome

/-- Takes a message in. There is no reply once the session has exited. -/
def handle (session : Session) (host : Host) (message : Message) : Option (Session × Reply) :=
  if session.phase = .exited then none
  else some <|
    match Method.ofName? message.method with
    | none =>
      if message.method.startsWith "$/" then (session, {})
      else
        let error := { RpcError.methodNotFound with data := some (.string message.method) }
        (session, { response := respond message.id (.error error) })
    | some .exit => ({ session with phase := .exited }, {})
    | some .cancel => session.call host message .cancel
    | some .setUp =>
      if session.phase = .fresh then
        let (next, reply) := session.call host message .setUp
        (if succeeded reply then { next with phase := .ready } else next, reply)
      else (session, { response := respond message.id (.error .invalidRequest) })
    | some .shutDown =>
      if session.phase = .ready then
        { session with phase := .shutDown }.call host message .shutDown
      else session.refuse message.id
    | some method =>
      if session.phase = .ready then session.call host message method
      else session.refuse message.id

end Session

end ScopeTracker
