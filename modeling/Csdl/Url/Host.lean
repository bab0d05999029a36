import Csdl.Error
import Csdl.Url.Ipv4
import Csdl.Url.Ipv6
import Csdl.Url.Label
import Csdl.Url.Percent

/-!
The hosts of urls. A special scheme has domains and addresses as hosts; another scheme takes
nearly any text as it is.
-/

namespace Csdl.Url

/-- How a scheme treats its urls. -/
inductive SchemeKind where
  | file
  | special
  | other
  deriving DecidableEq, Repr

namespace SchemeKind

/-- The kind of a scheme. -/
def ofName (scheme : String) : SchemeKind :=
  if scheme = "file" then file
  else if ["http", "https", "ws", "wss", "ftp"].contains scheme then special
  else other

/-- Whether a backslash separates like a slash. -/
def isSpecial (kind : SchemeKind) : Bool :=
  kind ≠ other

end SchemeKind

/-- The ports that schemes use when none is told. -/
def defaultPorts : List (String × Nat) := [
  ("http", 80), ("https", 443), ("ws", 80), ("wss", 443), ("ftp", 21)]

/-- A host in brackets, if a text is one. -/
def bracketed? (cs : List Char) : Option (Except UrlError String) :=
  match cs with
  | '[' :: inside =>
    some <|
      if inside.getLast? = some ']' then
        match Ipv6.parse? inside.dropLast with
        | some pieces => .ok ("[" ++ Ipv6.text pieces ++ "]")
        | none => .error .invalidIpv6
      else .error .invalidIpv6
  | _ => none

/-- A character that no domain has as it is written. Only domains in ASCII are known here. -/
def isForbiddenInDomain (c : Char) : Bool :=
  c.toNat ≤ 0x20 || 0x7F ≤ c.toNat || "%#/:<>?@[\\]^|".toList.contains c

/-- A character that no host of another scheme has. -/
def isForbiddenInHost (c : Char) : Bool :=
  c.toNat = 0 || "\t\n\r #/:<>?@[\\]^|".toList.contains c

/-- The domain or the address that a host of a special scheme is. -/
def domain (cs : List Char) : Except UrlError String :=
  match bracketed? cs with
  | some address => address
  | none =>
    let host := (percentDecode cs).map Char.toLower
    if host.any isForbiddenInDomain || !hasReadableLabels host then .error .invalidDomain
    else if host.isEmpty then .error .emptyHost
    else if Ipv4.endsInNumber host then
      match Ipv4.parse? host with
      | some address => .ok (Ipv4.text address)
      | none => .error .invalidIpv4
    else .ok (String.ofList host)

/-- The host of another scheme. -/
def opaqueHost (cs : List Char) : Except UrlError String :=
  match bracketed? cs with
  | some address => address
  | none =>
    if cs.any isForbiddenInHost then .error .invalidDomainCharacter
    else .ok (String.ofList (percentEncode isControlOrBeyond cs))

end Csdl.Url
