import Wescale.Lib.Ranges
import Wescale.Lib.Int64
import Wescale.Lib.AListMap
import Wescale.Lib.GoString
import Wescale.Lib.GoBytes
import Wescale.Lib.GoSlice
import Wescale.Lib.Loop
import Wescale.Lib.Interleaving
import Wescale.Lib.Chunks
import Wescale.Lib.LittleEndian
import Wescale.Lib.InsertionSort
import Wescale.Lib.Kleene
import Wescale.Lib.Flags
import Wescale.Mysql.GtidSet.Basic
import Wescale.Mysql.GtidSet.Union
import Wescale.Mysql.GtidSet.Intersect
import Wescale.Mysql.GtidSet.Compare
import Wescale.Mysql.GtidSet.Algebra
import Wescale.Mysql.GtidSet.AddGtid
import Wescale.Mysql.GtidSet.Trim
import Wescale.Mysql.GtidSet.Parse
import Wescale.Mysql.GtidSet.Parsed
import Wescale.Mysql.GtidSet.Difference
import Wescale.Mysql.GtidSet.Format
import Wescale.Mysql.GtidSet.Subtract
import Wescale.Mysql.GtidSet.SidBlock
import Wescale.Mysql.Encoding
import Wescale.Mysql.OkPacket
import Wescale.Mysql.Handshake
import Wescale.Mysql.Writers
import Wescale.Mysql.HandshakeV10
import Wescale.Mysql.HandshakeResponse
import Wescale.Mysql.HandshakeExchange
import Wescale.Key.KeyRange
import Wescale.Key.Padding
import Wescale.Key.ShardingSpec
import Wescale.Topo.Partitions
import Wescale.Sqltypes.Value
import Wescale.Sqlparser.Analyzer
import Wescale.Sqlparser.Token
import Wescale.Sqlparser.Expr
import Wescale.Sqlparser.PredicateRewriting
import Wescale.Sqlparser.RewriteTruth
import Wescale.Sqlparser.RewritePass
import Wescale.Schemadiff.Schema
import Wescale.Vtgate.LastSeenGtid
import Wescale.Evalengine.Arithmetic
import Wescale.Vtgate.TabletGateway
import Wescale.Vtgate.TabletGatewayLb
import Wescale.Vtgate.ReadWriteSplitter
import Wescale.Vtgate.Buffer.Safety
import Wescale.Tabletserver.Ccl
import Wescale.Tabletserver.CclCounters
import Wescale.Tabletserver.CclMutex
import Wescale.Tabletserver.ActionList
import Wescale.Jobcontroller.Controller
import Wescale.Jobcontroller.Schedules
import Wescale.Jobcontroller.Batches
import Wescale.Jobcontroller.Split
import Wescale.Mysql.HandshakeWire
