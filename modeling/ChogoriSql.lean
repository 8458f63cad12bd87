import ChogoriSql.Numeric.Ieee754
import ChogoriSql.Numeric.Hex
import ChogoriSql.Numeric.DecimalDigits
import ChogoriSql.Cpp.String
import ChogoriSql.Order.Prefix
import ChogoriSql.Data.BitString
import ChogoriSql.Data.TwosComplement
import ChogoriSql.Monad.Except
import ChogoriSql.System.Transition
import ChogoriSql.Common.Status
import ChogoriSql.Common.VarInt
import ChogoriSql.Common.VarIntTwosComplement
import ChogoriSql.Order.Lex
import ChogoriSql.Common.Decimal
import ChogoriSql.Common.DecimalValue
import ChogoriSql.Common.DecimalText
import ChogoriSql.Common.DecimalArith
import ChogoriSql.Common.DecimalSerialized
import ChogoriSql.Sql.Value
import ChogoriSql.Sql.Expr
import ChogoriSql.Skv.Record
import ChogoriSql.Adapter.StatusMap
import ChogoriSql.Adapter.KeyRecord
import ChogoriSql.Adapter.RangeConditions
import ChogoriSql.Postgres.Types
import ChogoriSql.Postgres.Operators
import ChogoriSql.Fdw.Pushdown
import ChogoriSql.Adapter.Filter
import ChogoriSql.Fdw.ForeignScan
import ChogoriSql.Pggate.Fetch
import ChogoriSql.Pggate.Limit
import ChogoriSql.Pggate.ActiveOps
import ChogoriSql.Pggate.ThreadPool
import ChogoriSql.Pggate.SeastarApp
import ChogoriSql.Pggate.TxnHandler
import ChogoriSql.Catalog.ReserveOid
import ChogoriSql.Catalog.Database
import ChogoriSql.Adapter.WriteOp
import ChogoriSql.Catalog.Schema
import ChogoriSql.Catalog.CreateIndex
import ChogoriSql.Catalog.TableInfo
import ChogoriSql.Catalog.TableMeta
import ChogoriSql.Catalog.RoundTrip
import ChogoriSql.Catalog.ObjectId
import ChogoriSql.Catalog.Created
import ChogoriSql.Catalog.CopyDatabase
import ChogoriSql.Catalog.Version
import ChogoriSql.Pggate.DmlWrite
import ChogoriSql.Pggate.KeyLayout
import ChogoriSql.Pggate.Update
import ChogoriSql.Skv.Store
import ChogoriSql.Pggate.Errors
import ChogoriSql.Pggate.IndexWrite
import ChogoriSql.Pggate.Translate
