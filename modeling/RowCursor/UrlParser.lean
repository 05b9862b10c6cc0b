import RowCursor.Options
import RowCursor.UrlParser.Host
import RowCursor.UrlParser.Query

/-!
# The URL parser of the command line

Options are read over whatever parser of URLs is given (`CursorOptions.ofText`), and no result
depends on one.  This is the parser that the command line gives.

A URL is read for its scheme and its query parameters.  The part between is checked,
so that a text with an impossible host or port is refused, and then dropped.
Blanks at the ends and tabs and line breaks anywhere are passed over.
-/

set_option autoImplicit false

namespace RowCursor.UrlParser

/-- Whether a character at the ends of a URL is passed over. -/
def isBlank (char : Char) : Bool := char.toNat ≤ 0x20

def significant (text : List Char) : List Char :=
  let trimmed := ((text.dropWhile isBlank).reverse.dropWhile isBlank).reverse
  trimmed.filter fun char => char ≠ '\t' && char ≠ '\n' && char ≠ '\r'

/-- The scheme, in lower case, and what follows its colon. -/
def scheme? (text : List Char) : Option (List Char × List Char) :=
  let admitted (char : Char) := char.isAlphanum || char = '+' || char = '-' || char = '.'
  match text with
  | [] => none
  | first :: _ =>
    if first.isAlpha then
      match text.dropWhile admitted with
      | ':' :: rest => some ((text.takeWhile admitted).map Char.toLower, rest)
      | _ => none
    else none

/-- The schemes whose URLs always name a host. -/
def hostSchemes : List String := ["http", "https", "ws", "wss", "ftp"]

/-- Whether a character ends the part that names user, host and port. -/
def endsAuthority (char : Char) : Bool := char = '/' || char = '?' || char = '#'

/-- Whether a character counts as a slash for a scheme that names a domain. -/
def isSlash (char : Char) : Bool := char = '/' || char = '\\'

/-- Split at the last at sign: what stands before it, if there is one, and the rest. -/
def splitUser (authority : List Char) : Option (List Char) × List Char :=
  match authority.reverse.span (· ≠ '@') with
  | (_, []) => (none, authority)
  | (host, _ :: user) => (some user.reverse, host.reverse)

def hasCredentials (user : List Char) : Bool := !user.isEmpty && user ≠ [':']

/-- Split into the host, and the port behind its colon if there is one.  Colons
inside brackets belong to the host. -/
def splitPort : (inBrackets : Bool) → List Char → List Char × Option (List Char)
  | _, [] => ([], none)
  | inBrackets, char :: rest =>
    if char = ':' ∧ !inBrackets then ([], some rest)
    else
      let inBrackets := if char = '[' then true else if char = ']' then false else inBrackets
      let (host, port) := splitPort inBrackets rest
      (char :: host, port)

/-- Check a port: digits up to 65535, none at all included.  A backslash ends it. -/
def checkPort (port : List Char) : Except UrlError Unit :=
  let digits := port.takeWhile Char.isDigit
  let value := digits.foldl (fun value digit => 10 * value + (digit.toNat - '0'.toNat)) 0
  if value > 65535 then .error .invalidPort
  else
    match port.dropWhile Char.isDigit with
    | [] => .ok ()
    | next :: _ => if next = '\\' then .ok () else .error .invalidPort

/-- Check the part that names user, host and port.  `atEnd` tells that nothing
follows it.  A host may be empty only where neither a user nor a port is named. -/
def checkAuthority (authority : List Char) (atEnd : Bool) : Except UrlError Unit := do
  let (user, address) := splitUser authority
  if user = some [] ∧ address = [] ∧ !atEnd then
    throw .emptyHost
  let (host, port) := splitPort false address
  checkHost .opaqueText host
  if host = [] ∧ port.isSome then
    throw .emptyHost
  checkPort (port.getD [])
  if host = [] ∧ hasCredentials (user.getD []) then
    throw .emptyHost

/-- Check what follows the scheme of a URL that always names a host: slashes, then
a host that is not empty. -/
def checkHostScheme (rest : List Char) : Except UrlError Unit := do
  let authority := (rest.dropWhile isSlash).takeWhile fun char =>
    !(endsAuthority char || isSlash char)
  let (_, address) := splitUser authority
  let (host, port) := splitPort false address
  if host = [] then
    throw .emptyHost
  checkHost .domain host
  checkPort (port.getD [])

/-- Whether a text is the letter of a drive and its mark. -/
def isDrive : List Char → Bool
  | [letter, mark] => letter.isAlpha && (mark = ':' || mark = '|')
  | _ => false

/-- Check what follows the scheme of a file.  Two slashes announce a host, without
user and port, which may be empty or give way to a drive. -/
def checkFile (rest : List Char) : Except UrlError Unit :=
  match rest with
  | first :: second :: behind =>
    if isSlash first && isSlash second then
      let host := behind.takeWhile fun char => !(endsAuthority char || isSlash char)
      if host.isEmpty || isDrive host then .ok () else checkHost .domain host
    else .ok ()
  | _ => .ok ()

/-- Check what stands between the scheme and the query. -/
def checkRest (scheme : String) (rest : List Char) : Except UrlError Unit :=
  if hostSchemes.contains scheme then checkHostScheme rest
  else if scheme = "file" then checkFile rest
  else
    match rest with
    | '/' :: '/' :: behind =>
      let authority := behind.takeWhile fun char => !endsAuthority char
      checkAuthority authority (authority.length = behind.length)
    | _ => .ok ()

/-- The characters of the query: behind the first question mark, before the first
number sign. -/
def queryOf (rest : List Char) : List Char :=
  ((rest.takeWhile (· ≠ '#')).dropWhile (· ≠ '?')).drop 1

def parse (text : String) : Except UrlError Url :=
  match scheme? (significant text.toList) with
  | none => .error .relativeWithoutBase
  | some (scheme, rest) => do
    let scheme := String.ofList scheme
    checkRest scheme rest
    return { scheme, query := Query.pairs (Utf8.encode (String.ofList (queryOf rest))) }

end RowCursor.UrlParser
