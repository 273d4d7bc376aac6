import ScopeTracker.Domain.Name
import ScopeTracker.Files.Uri.Address
import ScopeTracker.Files.Uri.Percent

/-!
# Hosts

A host is a name or an address. The hosts of web addresses and files are domain names, or
addresses of version 4 if they end in a number; those of other URIs are any names. An address of
version 6 stands in brackets.
-/

namespace ScopeTracker

/-- Why a text is not a URI. -/
inductive UriError where
  /-- It names no scheme. -/
  | noScheme
  /-- It lacks a host that it must have. -/
  | noHost
  /-- The host is no domain name. -/
  | badDomain
  /-- The host holds a character that no host may hold. -/
  | badHostCharacter
  /-- The service is not given by a number of 16 bits. -/
  | badService
  | badAddress4
  | badAddress6
deriving DecidableEq, Repr

/-- What is said of a text that is not a URI. -/
def UriError.message : UriError → String
  | .noScheme => "relative URL without a base"
  | .noHost => "empty host"
  | .badDomain => "invalid international domain name"
  | .badHostCharacter => "invalid domain character"
  | .badService => "invalid port number"
  | .badAddress4 => "invalid IPv4 address"
  | .badAddress6 => "invalid IPv6 address"

namespace Uri

/-- A host. -/
inductive Host where
  /-- A name, which may be empty. -/
  | named (name : String)
  | address4 (address : Nat)
  | address6 (groups : List Nat)
deriving DecidableEq, Repr, Inhabited

namespace Host

/-- The host that is not named. -/
def unnamed : Host := .named ""

/-- The name of the machine itself. -/
def localName : String := "localhost"

/-- Whether a host is the machine itself: it is not named, or has the name for that. -/
def isLocal (host : Host) : Bool := host = unnamed || host = .named localName

/-- The text of a host. -/
def toString : Host → String
  | .named name => name
  | .address4 address => Address.text4 address
  | .address6 groups => "[" ++ Address.text6 groups ++ "]"

/-- Reads an address in brackets, if a text starts with one. -/
def bracketed? : Text → Option (Except UriError Host)
  | '[' :: rest =>
    some <|
      match rest.getLast? with
      | some ']' => ((Address.version6? rest.dropLast).map .address6).elim (.error .badAddress6) .ok
      | _ => .error .badAddress6
  | _ => none

/-- Reads the host of a web address or a file. Bytes may be percent-encoded. -/
def ofDomain (t : Text) : Except UriError Host :=
  (bracketed? t).getD <| do
    let some name := textOfBytes? (decodeBytes t) | throw .badDomain
    let some name := Domain.toAscii? name.toList | throw .badDomain
    if name.isEmpty then throw .noHost
    if Address.endsInNumber name then
      match Address.version4? name with
      | some address => return .address4 address
      | none => throw .badAddress4
    return .named (String.ofList name)

/-- What may not stand in the name of any host. -/
def forbidden : Text := "\x00\t\n\r #/:<>?@[\\]^|".toList

/-- Reads the host of any other URI. -/
def ofText (t : Text) : Except UriError Host :=
  (bracketed? t).getD <|
    if t.any forbidden.contains then .error .badHostCharacter
    else .ok (.named (String.ofList (encode [] t)))

end Host

end Uri

end ScopeTracker
