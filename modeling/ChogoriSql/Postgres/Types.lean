import ChogoriSql.Sql.Value

/-! PostgreSQL datums and the type entities of `catalog/ybctype.c` that turn them into
`SqlValue`s: `K2PgFindTypeEntity` and the constructor `SqlValue(type_entity, datum, is_null)`
of `entities/value.cc`.  The table holds the built-in scalar types the connector stores. -/

namespace ChogoriSql

/-- A PostgreSQL `Datum`: a machine word for a pass-by-value type, or the bytes a
pass-by-reference datum points to (the payload of a varlena, or a C string). -/
inductive Datum where
  | word (value : UInt64)
  | pointer (bytes : List UInt8)
  deriving DecidableEq, Repr

namespace Datum

/-- The machine word of a datum; a pointer's word is not modelled and reads as `0`. -/
def toWord : Datum → UInt64
  | word value => value
  | pointer _ => 0

def bytes : Datum → List UInt8
  | word _ => []
  | pointer bytes => bytes

end Datum

inductive K2SqlDataType where
  | K2SQL_DATA_TYPE_INT8
  | K2SQL_DATA_TYPE_INT16
  | K2SQL_DATA_TYPE_INT32
  | K2SQL_DATA_TYPE_INT64
  | K2SQL_DATA_TYPE_STRING
  | K2SQL_DATA_TYPE_BOOL
  | K2SQL_DATA_TYPE_FLOAT
  | K2SQL_DATA_TYPE_DOUBLE
  | K2SQL_DATA_TYPE_BINARY
  | K2SQL_DATA_TYPE_TIMESTAMP
  | K2SQL_DATA_TYPE_DECIMAL
  | K2SQL_DATA_TYPE_UINT32
  | K2SQL_DATA_TYPE_UINT64
  deriving DecidableEq, Repr

inductive DatumToK2Pg where
  | K2SqlDatumToBool
  | K2SqlDatumToBinary
  | K2SqlDatumToChar
  | K2SqlDatumToName
  | K2SqlDatumToInt64
  | K2SqlDatumToInt16
  | K2SqlDatumToInt32
  | K2SqlDatumToText
  | K2SqlDatumToOid
  | K2SqlDatumToFloat4
  | K2SqlDatumToFloat8
  | K2SqlDatumToBPChar
  | K2SqlDatumToVarchar
  | K2SqlDatumToDate
  | K2SqlDatumToTime
  | K2SqlDatumToUInt64
  | K2SqlDatumToCStr
  deriving DecidableEq, Repr

/-- `K2PgTypeEntity`: a type oid, its K2 data type and its converter. -/
structure K2PgTypeEntity where
  typeOid : Nat
  k2pgType : K2SqlDataType
  datumToK2Pg : DatumToK2Pg
  deriving DecidableEq, Repr

def BOOLOID : Nat := 16
def BYTEAOID : Nat := 17
def CHAROID : Nat := 18
def NAMEOID : Nat := 19
def INT8OID : Nat := 20
def INT2OID : Nat := 21
def INT4OID : Nat := 23
def TEXTOID : Nat := 25
def OIDOID : Nat := 26
def FLOAT4OID : Nat := 700
def FLOAT8OID : Nat := 701
def BPCHAROID : Nat := 1042
def VARCHAROID : Nat := 1043
def DATEOID : Nat := 1082
def TIMEOID : Nat := 1083
def TIMESTAMPOID : Nat := 1114
def TIMESTAMPTZOID : Nat := 1184
def LSNOID : Nat := 3220
def CSTRINGOID : Nat := 2275

def K2SqlTypeEntityTable : List K2PgTypeEntity :=
  [⟨BOOLOID, .K2SQL_DATA_TYPE_BOOL, .K2SqlDatumToBool⟩,
   ⟨BYTEAOID, .K2SQL_DATA_TYPE_BINARY, .K2SqlDatumToBinary⟩,
   ⟨CHAROID, .K2SQL_DATA_TYPE_INT8, .K2SqlDatumToChar⟩,
   ⟨NAMEOID, .K2SQL_DATA_TYPE_STRING, .K2SqlDatumToName⟩,
   ⟨INT8OID, .K2SQL_DATA_TYPE_INT64, .K2SqlDatumToInt64⟩,
   ⟨INT2OID, .K2SQL_DATA_TYPE_INT16, .K2SqlDatumToInt16⟩,
   ⟨INT4OID, .K2SQL_DATA_TYPE_INT32, .K2SqlDatumToInt32⟩,
   ⟨TEXTOID, .K2SQL_DATA_TYPE_STRING, .K2SqlDatumToText⟩,
   ⟨OIDOID, .K2SQL_DATA_TYPE_UINT32, .K2SqlDatumToOid⟩,
   ⟨FLOAT4OID, .K2SQL_DATA_TYPE_FLOAT, .K2SqlDatumToFloat4⟩,
   ⟨FLOAT8OID, .K2SQL_DATA_TYPE_DOUBLE, .K2SqlDatumToFloat8⟩,
   ⟨BPCHAROID, .K2SQL_DATA_TYPE_STRING, .K2SqlDatumToBPChar⟩,
   ⟨VARCHAROID, .K2SQL_DATA_TYPE_STRING, .K2SqlDatumToVarchar⟩,
   ⟨DATEOID, .K2SQL_DATA_TYPE_INT32, .K2SqlDatumToDate⟩,
   ⟨TIMEOID, .K2SQL_DATA_TYPE_INT64, .K2SqlDatumToTime⟩,
   ⟨TIMESTAMPOID, .K2SQL_DATA_TYPE_INT64, .K2SqlDatumToInt64⟩,
   ⟨TIMESTAMPTZOID, .K2SQL_DATA_TYPE_INT64, .K2SqlDatumToInt64⟩,
   ⟨LSNOID, .K2SQL_DATA_TYPE_UINT64, .K2SqlDatumToUInt64⟩,
   ⟨CSTRINGOID, .K2SQL_DATA_TYPE_STRING, .K2SqlDatumToCStr⟩]

def K2PgFindTypeEntity (typeOid : Nat) : Option K2PgTypeEntity :=
  K2SqlTypeEntityTable.find? fun entity => entity.typeOid = typeOid

def isSpace (byte : UInt8) : Bool :=
  byte == 32 || (9 ≤ byte && byte ≤ 13)

def DatumToK2Pg.convert : DatumToK2Pg → Datum → SqlValue
  | .K2SqlDatumToBool, datum => .bool (datum.toWord != 0)
  | .K2SqlDatumToBinary, datum => .slice datum.bytes
  | .K2SqlDatumToChar, datum => .int (Int64.ofInt datum.toWord.toUInt8.toInt8.toInt)
  | .K2SqlDatumToName, datum => .slice (datum.bytes.takeWhile (· != 0))
  | .K2SqlDatumToInt64, datum => .int datum.toWord.toInt64
  | .K2SqlDatumToInt16, datum => .int (Int64.ofInt datum.toWord.toUInt16.toInt16.toInt)
  | .K2SqlDatumToInt32, datum => .int (Int64.ofInt datum.toWord.toUInt32.toInt32.toInt)
  | .K2SqlDatumToText, datum => .slice datum.bytes
  | .K2SqlDatumToOid, datum => .int (Int64.ofNat datum.toWord.toUInt32.toNat)
  | .K2SqlDatumToFloat4, datum => .float datum.toWord.toUInt32
  | .K2SqlDatumToFloat8, datum => .double datum.toWord
  | .K2SqlDatumToBPChar, datum =>
      .slice (((datum.bytes.takeWhile (· != 0)).reverse.dropWhile isSpace).reverse)
  | .K2SqlDatumToVarchar, datum => .slice (datum.bytes.takeWhile (· != 0))
  | .K2SqlDatumToDate, datum => .int (Int64.ofInt datum.toWord.toUInt32.toInt32.toInt)
  | .K2SqlDatumToTime, datum => .int datum.toWord.toInt64
  | .K2SqlDatumToUInt64, datum => .int datum.toWord.toInt64
  | .K2SqlDatumToCStr, datum => .slice (datum.bytes.takeWhile (· != 0))

def K2SqlDataType.valueType : K2SqlDataType → ValueType
  | .K2SQL_DATA_TYPE_STRING | .K2SQL_DATA_TYPE_BINARY | .K2SQL_DATA_TYPE_DECIMAL => .SLICE
  | .K2SQL_DATA_TYPE_BOOL => .BOOL
  | .K2SQL_DATA_TYPE_FLOAT => .FLOAT
  | .K2SQL_DATA_TYPE_DOUBLE => .DOUBLE
  | _ => .INT

/-- `SqlValue(type_entity, datum, is_null)` for the types of the table. -/
def SqlValue.ofDatum (entity : K2PgTypeEntity) (datum : Datum) (isNull : Bool) : SqlValue :=
  if isNull then .null entity.k2pgType.valueType else entity.datumToK2Pg.convert datum

end ChogoriSql
