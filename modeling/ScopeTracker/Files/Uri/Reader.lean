import ScopeTracker.Files.Uri.Basic
import ScopeTracker.Files.Uri.Segments

/-!
# Reading URIs

A URI is a scheme and what follows its colon. There are three families: web addresses, which
have a host; files, whose host may be left out; and all others, which have a host behind two
slashes, segments behind one slash, and else a path that stays as it is. Web addresses and files
may be written with backslashes.
-/

namespace ScopeTracker

namespace Uri

/-- The schemes of web addresses, with the number of the service that need not be given. -/
def webSchemes : List (String × Nat) :=
  [("http", 80), ("https", 443), ("ws", 80), ("wss", 443), ("ftp", 21)]

/-- The scheme of files. -/
def fileScheme : String := "file"

/-- Cuts a text before the first character of a kind. -/
def cutBefore (stops : Char → Bool) (t : Text) : Text × Text :=
  (t.takeWhile (!stops ·), t.dropWhile (!stops ·))

/-- Cuts a text behind the last one of a character. -/
def cutAfterLast? (mark : Char) (t : Text) : Option (Text × Text) :=
  let (after, before) := cutBefore (· = mark) t.reverse
  match before with
  | [] => none
  | _ :: before => some (before.reverse, after.reverse)

/-- Whether a character is a slash, or a backslash where that counts as one. -/
def isSlash (backslashes : Bool) (c : Char) : Bool := c = '/' || (backslashes && c = '\\')

/-- Whether a character ends an authority. -/
def endsAuthority (backslashes : Bool) (c : Char) : Bool :=
  isSlash backslashes c || c = '?' || c = '#'

/-- Whether a character ends a path. -/
def endsPath (c : Char) : Bool := c = '?' || c = '#'

/-- A text with slashes for its backslashes. -/
def withSlashes (t : Text) : Text := t.map fun c => if c = '\\' then '/' else c

/-! ## Authorities -/

/-- Reads a user, with the password behind the first colon. An empty password is left out with
its colon. -/
def userOf (t : Text) : String :=
  let (name, password) := cutBefore (· = ':') t
  let password := password.drop 1
  let name := encode reservedInUser name
  String.ofList
    (if password.isEmpty then name else name ++ ':' :: encode reservedInUser password)

/-- Cuts an authority without a user before the colon of its service. Colons in brackets do not
count. -/
def cutAtService (inBrackets : Bool) : Text → Text × Text
  | [] => ([], [])
  | c :: rest =>
    if c = ':' && !inBrackets then ([], c :: rest)
    else
      let inBrackets := if c = '[' then true else if c = ']' then false else inBrackets
      let (host, service) := cutAtService inBrackets rest
      (c :: host, service)

/-- Reads the number of a service behind its colon. The one that need not be given, and no digits
at all, are no number. What is left may only start with a backslash. -/
def readService (usual : Option Nat) (t : Text) : Except UriError (Option Nat × Text) :=
  let digits := t.takeWhile Char.isDigit
  let rest := t.dropWhile Char.isDigit
  let service := Text.valueOfDigits 10 digits
  if 65535 < service || (rest.head?.getD '\\') ≠ '\\' then .error .badService
  else .ok (if digits.isEmpty || usual = some service then none else some service, rest)

/-- Reads an authority behind its slashes, up to the path. The answer holds what is left, which
starts with the path. -/
def readAuthority (usual : Option Nat) (t : Text) : Except UriError (Authority × Text) := do
  let isWeb := usual.isSome
  let (given, rest) := cutBefore (endsAuthority isWeb) t
  let (user, place) ←
    match cutAfterLast? '@' given with
    | none => pure ("", given)
    | some (user, place) =>
      if user.isEmpty && place.isEmpty && !rest.isEmpty then throw .noHost
      else pure (userOf user, place)
  let (host, service) := cutAtService false place
  if isWeb && host.isEmpty then throw .noHost
  let host ← if isWeb then Host.ofDomain host else Host.ofText host
  if host = .unnamed && !service.isEmpty then throw .noHost
  let (service, left) ←
    if service.isEmpty then pure (none, []) else readService usual (service.drop 1)
  if host = .unnamed && user ≠ "" then throw .noHost
  return ({ user, host, service }, left ++ rest)

/-! ## The families -/

/-- What was read of a URI behind its scheme: the authority, the path, and what is left. -/
abbrev Parts := Option Authority × String × Text

/-- Reads what follows the colon of a web address. -/
def webParts (usual : Nat) (t : Text) : Except UriError Parts := do
  let (authority, rest) ← readAuthority usual (t.dropWhile (isSlash true))
  let (path, rest) := cutBefore endsPath rest
  return (some authority, normalPath (withSlashes path), rest)

/-- Reads the host of a file. The machine itself need not be named. -/
def readFileHost (t : Text) : Except UriError Host := do
  if t.isEmpty then return .unnamed
  let host ← Host.ofDomain t
  return if host.isLocal then .unnamed else host

/-- Reads what follows the colon of a file URI. A drive at the start of the path takes the place
of the host. Behind a host that is left out, the path starts with an empty segment, which is
dropped at last, so that a drive is not at its start. -/
def fileParts (t : Text) : Except UriError Parts := do
  let (path, rest) := cutBefore endsPath t
  match withSlashes path with
  | '/' :: '/' :: path =>
    let (host, below) := cutBefore (· = '/') path
    if isDrive host then
      return (some {}, (({} : Segments).add true (segmentsOf path)).fileText, rest)
    else
      let host ← readFileHost host
      let start : Segments := { kept := if host = .unnamed then [[]] else [] }
      let segments := start.add true (segmentsOf below)
      let host := if segments.hasDrive then .unnamed else host
      return (some { host }, segments.fileText, rest)
  | path => return (some {}, (({} : Segments).add true (segmentsOf path)).fileText, rest)

/-- Reads what follows the colon of any other URI. A path that does not start with a slash has
no segments and stays as it is. -/
def otherParts : Text → Except UriError Parts
  | '/' :: '/' :: t => do
    let (authority, rest) ← readAuthority none t
    let (path, rest) := cutBefore endsPath rest
    return (some authority, if path.isEmpty then "" else normalPath path, rest)
  | '/' :: t =>
    let (path, rest) := cutBefore endsPath t
    .ok (none, normalPath ('/' :: path), rest)
  | t =>
    let (path, rest) := cutBefore endsPath t
    .ok (none, String.ofList (encode [] path), rest)

/-! ## Whole URIs -/

/-- The scheme of a URI and what follows its colon. -/
def scheme? (t : Text) : Option (String × Text) :=
  let (scheme, rest) := cutBefore (· = ':') t
  match scheme, rest with
  | first :: _, _ :: rest =>
    if first.isAlpha && scheme.all (fun c => c.isAlphanum || "+-.".toList.contains c) then
      some (String.ofList (Text.asciiLower scheme), rest)
    else none
  | _, _ => none

/-- A text without blanks and control characters around it, and without breaks and tabs inside. -/
def withoutBlanks (t : Text) : Text :=
  let outer (c : Char) : Bool := c.toNat ≤ 0x20
  let t := ((t.dropWhile outer).reverse.dropWhile outer).reverse
  t.filter fun c => c ≠ '\t' && c ≠ '\n' && c ≠ '\r'

/-- Reads a URI. -/
def ofString (s : String) : Except UriError Uri := do
  let some (scheme, t) := scheme? (withoutBlanks s.toList) | throw .noScheme
  let usual := webSchemes.lookup scheme
  let isFile : Bool := scheme = fileScheme
  let (authority, path, rest) ←
    match usual with
    | some usual => webParts usual t
    | none => if isFile then fileParts t else otherParts t
  let (query, fragment) := cutBefore (· = '#') rest
  let reserved := if isFile || usual.isSome then reservedInSpecialQuery else reservedInQuery
  return {
    scheme, authority, path
    query := query.tail?.map fun q => String.ofList (encode reserved q)
    fragment := fragment.tail?.map fun f => String.ofList (encode reservedInFragment f) }

end Uri

end ScopeTracker
