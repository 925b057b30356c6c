import CubetranCore.Meta.Data
import CubetranCore.Pipeline.Fetch
import CubetranCore.Pipeline.Dispatch
import CubetranCore.Pipeline.CallLog
import CubetranCore.Pipeline.Positions
import CubetranCore.Snapshot.Handoff
import CubetranCore.PgCdc.Message
import CubetranCore.PgCdc.Extractor
import CubetranCore.PgCdc.Decoding
import CubetranCore.PgCdc.Faults
import CubetranCore.Snapshot.Slices
import CubetranCore.Snapshot.SliceScan
import CubetranCore.Snapshot.Extract
import CubetranCore.Snapshot.Delivery
import CubetranCore.Snapshot.Liveness
import CubetranCore.Sinker.BaseSinker
import CubetranCore.Sinker.StarRocks
import CubetranCore.Sinker.StreamLoads
import CubetranCore.Sinker.Counters
import CubetranCore.Sinker.PrimaryKeyTable
import CubetranCore.Sinker.Rdkafka
import CubetranCore.Precheck.MysqlFetcher
import CubetranCore.Precheck.MongoPrechecker
