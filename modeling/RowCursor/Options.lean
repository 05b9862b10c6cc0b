import RowCursor.Error

/-!
# Options of a cursor

How many rows one fetch asks for, and after how many rows the result ends even if
the server has more.  Options can be read from the query parameters of a URL: each
parameter is checked, a wrong one is refused even if a later one would replace it,
and of several the last one counts.  What a text is as a URL is left to a parser that
is given.
-/

set_option autoImplicit false

namespace RowCursor

/-! ## Fetch sizes -/

/-- How many rows one fetch asks for. -/
inductive FetchSize where
  /-- Left to the next setting. -/
  | unset
  | rows (count : UInt32)
  /-- One row at a time. -/
  | rowByRow
  deriving DecidableEq, Repr

namespace FetchSize

/-- The number that asks for one row at a time. -/
def rowByRowNumber : Int := -2147483648

/-- The fetch size that a number stands for: zero leaves it unset, and of the
negative numbers only one has a meaning. -/
def ofNumber (number : Int) : Except ConfigError FetchSize :=
  if number = 0 then .ok unset
  else if number = rowByRowNumber then .ok rowByRow
  else if number < 0 then .error (.negativeFetchSize number)
  else if number < 0x100000000 then .ok (rows (UInt32.ofNat number.toNat))
  else .error (.fetchSizeTooLarge number)

def count? : FetchSize → Option UInt32
  | unset => none
  | rows count => some count
  | rowByRow => some 1

end FetchSize

/-! ## URLs -/

/-- What is read of a URL. -/
structure Url where
  /-- The scheme in lower case. -/
  scheme : String
  /-- The names and values of the query's parameters, decoded, in order. -/
  query : List (String × String)
  deriving DecidableEq, Repr

/-! ## Cursor options -/

structure CursorOptions where
  /-- The size set on the result. -/
  fetchSize : FetchSize := .unset
  /-- The size set on the statement, for a result without one. -/
  statementFetchSize : FetchSize := .unset
  /-- The most rows that are handed out. -/
  maxRows : Option Nat := none
  deriving DecidableEq, Repr, Inhabited

namespace CursorOptions

/-- The count of rows that one fetch asks for. -/
def rowsPerFetch (options : CursorOptions) : UInt32 :=
  let size := match options.fetchSize with
    | .unset => options.statementFetchSize
    | size => size
  size.count?.getD 1

/-- The fetch size that a parameter's text gives. -/
def readFetchSize (name value : String) : Except ConfigError FetchSize :=
  match Number.signed? 0x8000000000000000 value with
  | some number => FetchSize.ofNumber number
  | none => .error (.badInteger value name)

/-- The limit that a parameter's text gives; zero is no limit. -/
def readMaxRows (name value : String) : Except ConfigError (Option Nat) :=
  match Number.unsigned? UInt64.size value with
  | some number => .ok (if number = 0 then none else some number)
  | none => .error (.badUnsigned value name)

/-- The options with one parameter applied. -/
def apply (options : CursorOptions) (parameter : String × String) :
    Except ConfigError CursorOptions :=
  let (name, value) := parameter
  if name = "fetch_size" then
    (readFetchSize name value).map fun fetchSize => { options with fetchSize }
  else if name = "statement_fetch_size" then
    (readFetchSize name value).map fun statementFetchSize => { options with statementFetchSize }
  else if name = "max_rows" then
    (readMaxRows name value).map fun maxRows => { options with maxRows }
  else .error (.unknownParameter name)

def ofParameters (parameters : List (String × String)) : Except ConfigError CursorOptions :=
  parameters.foldlM apply {}

def ofUrl (url : Url) : Except ConfigError CursorOptions :=
  if url.scheme = "mysql" then ofParameters url.query else .error (.wrongScheme url.scheme)

/-- The options that a text gives, as a URL in the reading of `parse`. -/
def ofText (parse : String → Except UrlError Url) (text : String) :
    Except Error CursorOptions :=
  let options := match parse text with
    | .ok url => ofUrl url
    | .error cause => .error (.invalidUrl cause)
  options.mapError .badConfig

end CursorOptions

end RowCursor
