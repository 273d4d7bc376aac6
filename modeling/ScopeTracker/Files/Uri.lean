import ScopeTracker.Files.Path
import ScopeTracker.Files.Uri.Reader

/-!
# Files that URIs lead to

The path of a URI that names no other host is a path in the file tree, once it is decoded.
-/

namespace ScopeTracker

namespace Uri

/-- A component that no file has. -/
def noFile : String := "\x00"

/-- A component of a path in the file tree. Bytes that are not UTF-8 lead to no file. -/
def componentOf (bytes : List UInt8) : String := (textOfBytes? bytes).getD noFile

/-- The path that bytes stand for. -/
def pathOfBytes (bytes : List UInt8) : Path :=
  Path.ofParts ((bytes.splitOnP (· = 47)).map componentOf)

/-- The path in the file tree that a URI leads to. There is none if the URI names another host,
or has a path without segments. -/
def filePath? (uri : Uri) : Option Path :=
  let isLocal := (uri.authority.map (·.host.isLocal)).getD true
  if isLocal && uri.path.toList.head? = some '/' then
    some (pathOfBytes (decodeBytes uri.path.toList))
  else none

end Uri

end ScopeTracker
