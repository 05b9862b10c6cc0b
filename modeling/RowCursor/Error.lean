import RowCursor.Text.Number
import RowCursor.Text.Quoted
import RowCursor.ColumnType

/-!
# Errors

Every way in which reading a packet, decoding a row or paging through a result can
fail, as a cause with the facts that belong to it.  The wording of all messages is
in this module.
-/

set_option autoImplicit false

namespace RowCursor

/-- A failure that the server reports. -/
structure ServerReport where
  code : UInt16
  /-- The five-character state, or the empty text if the server sent none. -/
  state : String
  text : String
  deriving DecidableEq, Repr

def ServerReport.message (report : ServerReport) : String :=
  s!"ERROR {report.code} ({report.state}): {report.text}"

/-- A failure of the byte stream under a connection. -/
inductive StreamFault where
  /-- The stream ended inside a read. -/
  | endOfStream
  /-- The stream accepts no more bytes. -/
  | writeStalled
  /-- The transport failed, in its own words. -/
  | transport (text : String)
  deriving DecidableEq, Repr

def StreamFault.message : StreamFault → String
  | endOfStream => "failed to fill whole buffer"
  | writeStalled => "failed to write whole buffer"
  | transport text => text

/-- Why a text is not a URL, in the words of the parser that refuses it. -/
structure UrlError where
  message : String
  deriving DecidableEq, Repr

/-- Why a configuration is refused. -/
inductive ConfigError where
  | invalidUrl (cause : UrlError)
  | wrongScheme (scheme : String)
  | badInteger (value parameter : String)
  | badUnsigned (value parameter : String)
  | unknownParameter (parameter : String)
  | negativeFetchSize (size : Int)
  | fetchSizeTooLarge (size : Int)
  deriving DecidableEq, Repr

def ConfigError.message : ConfigError → String
  | invalidUrl cause => s!"Failed to parse MySQL URL: {cause.message}"
  | wrongScheme scheme => s!"Invalid URL scheme '{scheme}', expected 'mysql'"
  | badInteger value parameter =>
    s!"Invalid integer value '{value}' for parameter '{parameter}'"
  | badUnsigned value parameter =>
    s!"Invalid unsigned integer value '{value}' for parameter '{parameter}'"
  | unknownParameter parameter => s!"Unknown query parameter '{parameter}'"
  | negativeFetchSize size => s!"Fetch size must not be negative: {size}"
  | fetchSizeTooLarge size =>
    s!"Fetch size {size} too large: number too large to fit in target type"

/-- How a caller misused the library. -/
inductive UsageError where
  | metadataMissing
  | columnOutOfRange (index count : Nat)
  | metadataMismatch (rowColumns metadataColumns : Nat)
  | valueCountMismatch (values columns : Nat)
  | noResultSet (statementId : UInt32)
  | notText (column : String) (typeId : UInt8)
  | invalidUtf8 (column : String)
  /-- A failure of the caller's own, in its own words. -/
  | other (text : String)
  deriving DecidableEq, Repr

def UsageError.message : UsageError → String
  | metadataMissing => "Row accessed before column metadata was attached"
  | columnOutOfRange index count =>
    s!"Column index {index} out of range for a row of {count} columns"
  | metadataMismatch rowColumns metadataColumns =>
    s!"Row has {rowColumns} columns but the metadata describes {metadataColumns}"
  | valueCountMismatch values columns => s!"{values} values given for {columns} columns"
  | noResultSet statementId => s!"Statement {statementId} does not produce a result set"
  | notText column typeId =>
    s!"Cannot decode binary column `{column}` of type 0x{Number.hexUpper typeId} to &str"
  | invalidUtf8 column => s!"Column `{column}` is not valid UTF-8"
  | other text => text

/-- What is not supported. -/
inductive Unsupported where
  | packetRowIsReadOnly
  | cursorDeclined
  deriving DecidableEq, Repr

def Unsupported.message : Unsupported → String
  | packetRowIsReadOnly => "Rows backed by a packet buffer are read-only"
  | cursorDeclined => "The server did not open a cursor for this statement"

/-- A condition that a correct peer and a correct caller never bring about. -/
inductive InternalFault where
  | columnDefinitionTooShort (length : Nat)
  | unknownColumnType (typeId : UInt8)
  | invalidTimestampLength (length : Nat)
  | invalidTimeLength (length : Nat)
  | noBinaryDecoding (kind : ColumnType)
  | missingBatchRow (index : Nat)
  /-- A fault that is known by a text, which is shown in quotes. -/
  | quoted (text : String)
  /-- A fault that is known by a number. -/
  | number (value : Nat)
  deriving DecidableEq, Repr

def InternalFault.message : InternalFault → String
  | columnDefinitionTooShort length => s!"column definition too short: {length} < 12"
  | unknownColumnType typeId => s!"unknown column type: 0x{Number.hexUpper typeId}"
  | invalidTimestampLength length => s!"invalid timestamp length: {length}"
  | invalidTimeLength length => s!"invalid time length: {length}"
  | noBinaryDecoding kind => s!"no binary decoding for column type {kind.name}"
  | missingBatchRow index => s!"cursor batch has no row {index}"
  | quoted text => Quoted.encode text
  | number value => toString value

/-- Every failure of the library. -/
inductive Error where
  | server (report : ServerReport)
  | io (fault : StreamFault)
  | badConfig (cause : ConfigError)
  | badUsage (cause : UsageError)
  | invalidPacket
  | unexpectedEof
  | unsupportedBinaryType (typeId : UInt8) (column numColumns : Nat)
  | notSupported (cause : Unsupported)
  | resultSetClosed
  | fetchFailed (statementId : UInt32) (source : Error)
  | libraryBug (fault : InternalFault)
  deriving DecidableEq, Repr

def Error.message : Error → String
  | server report => s!"Server Error: {report.message}"
  | io fault => s!"IO error: {fault.message}"
  | badConfig cause => s!"Bad config error: {cause.message}"
  | badUsage cause => s!"Bad usage error: {cause.message}"
  | invalidPacket => "Invalid packet"
  | unexpectedEof => "Unexpected end of packet"
  | unsupportedBinaryType typeId column numColumns =>
    s!"Unsupported binary-encoded column type 0x{Number.hexLower typeId} " ++
      s!"for column {column + 1} of {numColumns}"
  | notSupported cause => s!"Operation not supported: {cause.message}"
  | resultSetClosed => "Operation not allowed after the result set was closed"
  | fetchFailed statementId source =>
    s!"Failed to fetch rows for statement {statementId}: {source.message}"
  | libraryBug fault => s!"Library bug: {fault.message}"

end RowCursor
