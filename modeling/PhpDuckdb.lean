import PhpDuckdb.Session.Handoff
import PhpDuckdb.Result.InOrder
import PhpDuckdb.Session.Registry
import PhpDuckdb.Session.Wakeups
import PhpDuckdb.Appender.Protocol
import PhpDuckdb.Async.Isolation
import PhpDuckdb.Async.Prepared
import PhpDuckdb.Statement.LastWriter
import PhpDuckdb.Types.Interpolation
import PhpDuckdb.Value.NonInterference
import PhpDuckdb.Logging.Accounting
import PhpDuckdb.Query.FirstRows
import PhpDuckdb.Connection.Released
import PhpDuckdb.Copy.Writers
import PhpDuckdb.Result.Registry
import PhpDuckdb.Async.PendingOwner
import PhpDuckdb.Callback.Isolated
import PhpDuckdb.Callback.ScalarObjects
import PhpDuckdb.Callback.ScalarRegistry
import PhpDuckdb.Value.Reporting
import PhpDuckdb.Value.Transparent
import PhpDuckdb.Value.FieldNames
import PhpDuckdb.Vector.Batches
import PhpDuckdb.Vector.Copy
import PhpDuckdb.Vector.Write
import PhpDuckdb.Arrow.Metadata
import PhpDuckdb.Arrow.Normalize
import PhpDuckdb.Arrow.Chunks
import PhpDuckdb.Arrow.ChunkOwnership
import PhpDuckdb.Decode.Bignum
import PhpDuckdb.Decode.RoundTrip
import PhpDuckdb.Value.DateTimes
import PhpDuckdb.Value.IntervalText
import PhpDuckdb.Variant.Bounds
import PhpDuckdb.Variant.Json
import PhpDuckdb.Decode.Fields
import PhpDuckdb.Decode.Maps
import PhpDuckdb.Value.Constructors
import PhpDuckdb.Decode.Bit
import PhpDuckdb.Vector.Types
import PhpDuckdb.Vector.ChunkRows
import PhpDuckdb.Value.StatementCache
import PhpDuckdb.Session.Leases
import PhpDuckdb.Value.Snapshot
import PhpDuckdb.Value.Resolution
import PhpDuckdb.Result.RowArrays
