import RowCursor.Error
import RowCursor.Text.Utf8
import RowCursor.UrlParser.Address
import RowCursor.UrlParser.Domain.Label
import RowCursor.UrlParser.Percent

/-!
# Domains

A domain stands in a URL in either case, with bytes written with a percent sign, with
styled characters for plain ones and with invisible characters, which count for nothing.
What is left has at least one character and none that delimits the parts of a URL, and
its labels follow the rules for letters beyond ASCII.  A domain whose last label is a
number has to be an IPv4 address.
-/

set_option autoImplicit false

namespace RowCursor

/-! ## Why a text is refused -/

namespace UrlError

def relativeWithoutBase : UrlError := ⟨"relative URL without a base"⟩
def emptyHost : UrlError := ⟨"empty host"⟩
def invalidPort : UrlError := ⟨"invalid port number"⟩
def invalidIpv4Address : UrlError := ⟨"invalid IPv4 address"⟩
def invalidIpv6Address : UrlError := ⟨"invalid IPv6 address"⟩
def invalidDomainCharacter : UrlError := ⟨"invalid domain character"⟩
def invalidDomainName : UrlError := ⟨"invalid international domain name"⟩

end UrlError

/-! ## Domains -/

namespace UrlParser

/-- The characters that no host may have. -/
def isForbiddenInHost (char : Char) : Bool :=
  [' ', '#', '/', ':', '<', '>', '?', '@', '[', '\\', ']', '^', '|', '\x00', '\t', '\n',
    '\r'].contains char

/-- The characters that no domain may have: control characters and the percent sign
too. -/
def isForbiddenInDomain (char : Char) : Bool :=
  isForbiddenInHost char || char.toNat < 0x20 || char = '%' || char = '\x7F'

/-- The domain that a host names, in plain and composed text, unless its bytes are no text
or it has a refused character. -/
def domain? (host : List Char) : Option (List Char) := do
  let text ← Utf8.decode? (Percent.decode (Utf8.encode (String.ofList host)))
  let plain ← text.toList.mapM Domain.plainText?
  return Domain.compose plain.flatten

/-- Whether a domain has no forbidden character and well-formed labels. -/
def isDomainName (domain : List Char) : Bool :=
  !domain.any isForbiddenInDomain && Domain.areLabels (domain.splitOn '.')

/-- The labels of a domain, without the empty one behind a dot at the end. -/
def labels (domain : List Char) : List (List Char) :=
  let parts := domain.splitOn '.'
  if parts.getLast? = some [] then parts.dropLast else parts

/-- Whether a label is a number, be it too large or not well formed. -/
def isNumeric (label : List Char) : Bool :=
  (!label.isEmpty && label.all Char.isDigit) || (looseNumber? label).isSome

def checkDomain (host : List Char) : Except UrlError Unit :=
  match (domain? host).filter isDomainName with
  | none => .error .invalidDomainName
  | some [] => .error .emptyHost
  | some domain =>
    if (labels domain).getLast?.any isNumeric && !isLooseAddress (labels domain) then
      .error .invalidIpv4Address
    else .ok ()

end UrlParser

end RowCursor
