import RowCursor.UrlParser.Domain

/-!
# Hosts of URLs

A host is an IPv6 address in brackets or a name.  The schemes of the web name a
domain; what a name means for any other scheme is not known, and so it only has to be
free of the characters that delimit the parts of a URL.
-/

set_option autoImplicit false

namespace RowCursor.UrlParser

/-- What the name of a host has to be. -/
inductive HostNaming where
  /-- A domain. -/
  | domain
  /-- A text that only the scheme understands. -/
  | opaqueText
  deriving DecidableEq, Repr

def HostNaming.check : HostNaming → List Char → Except UrlError Unit
  | domain, name => checkDomain name
  | opaqueText, name =>
    if name.any isForbiddenInHost then .error .invalidDomainCharacter else .ok ()

def checkHost (naming : HostNaming) (host : List Char) : Except UrlError Unit :=
  match host with
  | '[' :: inner =>
    if inner.getLast? = some ']' ∧ isIpv6Address inner.dropLast then .ok ()
    else .error .invalidIpv6Address
  | name => naming.check name

end RowCursor.UrlParser
