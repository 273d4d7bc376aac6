import ScopeTracker.Files.Uri.Host

/-!
# URIs

Documents are named by URIs. A URI is kept in its parts in one normal form, so that two spellings
of one URI name one document.
-/

namespace ScopeTracker

/-- Who and where: what stands between `//` and the path of a URI. -/
structure Uri.Authority where
  /-- The name of a user, with a colon and a password if there is one. -/
  user : String := ""
  host : Uri.Host := .unnamed
  /-- The number of the service on the host, unless it is the usual one. -/
  service : Option Nat := none
deriving DecidableEq, Repr, Inhabited

/-- The text of an authority. -/
def Uri.Authority.toString (authority : Uri.Authority) : String :=
  let user := if authority.user = "" then "" else authority.user ++ "@"
  let service := match authority.service with
    | some service => ":" ++ Nat.repr service
    | none => ""
  user ++ authority.host.toString ++ service

/-- A URI in its normal form. -/
structure Uri where
  scheme : String
  authority : Option Uri.Authority
  path : String
  query : Option String
  fragment : Option String
deriving DecidableEq, Repr, Inhabited

namespace Uri

/-- The text of a URI. A path that starts with two slashes must not be taken for an authority. -/
def toString (uri : Uri) : String :=
  let part (mark : String) (text : Option String) : String :=
    match text with
    | some text => mark ++ text
    | none => ""
  let authority := match uri.authority with
    | some authority => "//" ++ authority.toString
    | none => if ['/', '/'].isPrefixOf uri.path.toList then "/." else ""
  uri.scheme ++ ":" ++ authority ++ uri.path ++ part "?" uri.query ++ part "#" uri.fragment

end Uri

end ScopeTracker
