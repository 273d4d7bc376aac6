import ScopeTracker.Server.Params.Capabilities
import ScopeTracker.Server.Params.Document

/-!
# Parameters about the workspace

What an editor sends when it sets up a session, and when it asks for a command.
-/

namespace ScopeTracker

namespace Params

/-- Reads a folder of a workspace. -/
def workspaceFolder : Reader Uri :=
  record "WorkspaceFolder" [must "uri" uri, must "name" string] (required "uri" uri)

/-- Reads the directories of a workspace: the first of its folders, and its root. -/
def workspace : Reader (Option Uri × Option Uri) :=
  record "InitializeParams" [
      may "processId" word,
      may "rootPath" string,
      mayEnd "rootUri" uri,
      may "initializationOptions" anything,
      must "capabilities" Capabilities.all,
      mayEnd "trace" (oneOf ["off", "messages", "verbose"]),
      may "workspaceFolders" (list workspaceFolder),
      may "clientInfo" (shape "ClientInfo" [must "name" string, may "version" string]),
      may "locale" string]
    fun turn json => do
      let folders ← optional "workspaceFolders" (list workspaceFolder) turn json
      return (folders.bind List.head?, ← optional "rootUri" uri turn json)

/-- Reads the parameters of the notification that the editor is ready. -/
def readied : Reader Unit := shape "InitializedParams" []

/-- Reads the name of a command. Its arguments may be missing, but are not null. -/
def command : Reader String :=
  merged "ExecuteCommandParams"
    [must "command" string, ⟨"arguments", .free, checked (list anything)⟩] [progress]
    (required "command" string)

end Params

end ScopeTracker
