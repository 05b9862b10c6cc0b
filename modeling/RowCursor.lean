import RowCursor.BufferPool
import RowCursor.Connection
import RowCursor.ResultCursor.ForEach
import RowCursor.Session.PagingServer
import RowCursor.Session.ScriptedServer
import RowCursor.Session.StatementServer
import RowCursor.UrlParser
import RowCursor.Proofs.Bytes
import RowCursor.Proofs.Codec
import RowCursor.Proofs.Codec.Sequence
import RowCursor.Proofs.ColumnDefinition
import RowCursor.Proofs.ColumnDefinition.Tail
import RowCursor.Proofs.PacketReader
import RowCursor.Proofs.Payload
import RowCursor.Proofs.Response
import RowCursor.Proofs.RowStream
import RowCursor.Proofs.Step
import RowCursor.Proofs.ValueFactory
import RowCursor.Proofs.Row.SeekCache
import RowCursor.Proofs.Row.Reads
import RowCursor.Proofs.Row.BinaryLayout
import RowCursor.Proofs.Row.TextLayout
import RowCursor.Proofs.Row.MetadataSwap
import RowCursor.Proofs.Cursor.Simulation
import RowCursor.Proofs.Cursor.Recording
import RowCursor.Proofs.Cursor.Delivery
import RowCursor.Proofs.Cursor.Lifetime
import RowCursor.Proofs.Cursor.Finality
import RowCursor.Proofs.Cursor.FailedFetch
import RowCursor.Proofs.Session.Paging
import RowCursor.Proofs.Session.Statements
import RowCursor.Proofs.Cursor.Paging
import RowCursor.Proofs.Cursor.Drain
import RowCursor.Proofs.Cursor.Reading
import RowCursor.Proofs.Cursor.Sharing
import RowCursor.Proofs.Connection.Exchange
import RowCursor.Proofs.Connection.Past
import RowCursor.Proofs.Connection.OpenCursor
import RowCursor.Proofs.Connection.Paging
import RowCursor.Proofs.Connection.Reports
import RowCursor.Proofs.Connection.BrokenFetch
import RowCursor.Proofs.Cursor.FailedMove
import RowCursor.Proofs.Cursor.Position
import RowCursor.Proofs.Cursor.Questions
import RowCursor.Proofs.Row.Unsupported
import RowCursor.Proofs.Row.Truncation
import RowCursor.Proofs.Row.Accessors
import RowCursor.Proofs.Cursor.Requests
import RowCursor.Proofs.Payload.Acceptance
import RowCursor.Proofs.Connection.Sending
import RowCursor.Proofs.Row.Attachment
import RowCursor.Proofs.Row.OwnedCopy
import RowCursor.Proofs.Row.Values
import RowCursor.Proofs.Text.Number
import RowCursor.Proofs.Options
import RowCursor.Proofs.BufferPool
import RowCursor.Proofs.BufferSet
import RowCursor.Proofs.Cursor.Visit
import RowCursor.Proofs.Codec.Failure
import RowCursor.Proofs.Codec.Canonical
import RowCursor.Proofs.PacketReader.Walk
