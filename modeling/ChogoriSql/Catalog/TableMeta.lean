import ChogoriSql.Catalog.TableInfo
import ChogoriSql.Adapter.StatusMap

/-! The three meta tables in which `TableInfoHandler` keeps a collection's tables, table columns
and index columns, the records it derives from a `TableInfo` and writes with `UpsertRecord`,
and `GetTable`, which reads them back with `ReadRecord` and scans and rebuilds the `TableInfo`
field by field.

A meta record is serialized field by field in schema order, each value of its field's type, and
is read back the same way.  SKV's upsert, read and prefix scan are a parameter, `MetaSkv`, with the
laws the catalog rests on: an upsert replaces the record of the same key, a read finds the record
of a key, and a scan returns the records of a key prefix that pass its filter, in key order.
Integer fields hold the value of their C++ type; no value the catalog writes is out of that
type's range. -/

namespace ChogoriSql

inductive MetaField where
  | int16 (value : Int)
  | int32 (value : Int)
  | int64 (value : Int)
  | string (value : String)
  | bool (value : Bool)
  deriving DecidableEq, Repr

namespace MetaField

def type : MetaField → FieldType
  | int16 _ => .INT16T
  | int32 _ => .INT32T
  | int64 _ => .INT64T
  | string _ => .STRING
  | bool _ => .BOOL

def asInt? : MetaField → Option Int
  | int16 value | int32 value | int64 value => some value
  | _ => none

def asString? : MetaField → Option String
  | string value => some value
  | _ => none

def asBool? : MetaField → Option Bool
  | bool value => some value
  | _ => none

def compare : MetaField → MetaField → Ordering
  | int16 a, int16 b | int32 a, int32 b | int64 a, int64 b => Ord.compare a b
  | string a, string b => Ord.compare a b
  | bool a, bool b => Ord.compare a b
  | _, _ => .eq

end MetaField

def compareMetaFields : Option MetaField → Option MetaField → Ordering
  | none, none => .eq
  | none, some _ => .lt
  | some _, none => .gt
  | some a, some b => a.compare b

structure MetaRecord where
  schema : Schema
  fieldData : List (Option MetaField)
  deriving DecidableEq, Repr

namespace MetaRecord

def serialize (record : MetaRecord) (value : Option MetaField) : Except String MetaRecord :=
  match record.schema.fields[record.fieldData.length]?, value with
  | none, _ => throw "Cannot serialize a field past the end of the schema"
  | some field, some value =>
      if field.type = value.type then pure { record with fieldData := record.fieldData ++ [some value] }
      else throw "Schema not followed in record serialization"
  | some _, none => pure { record with fieldData := record.fieldData ++ [none] }

def serializeAll (schema : Schema) (values : List (Option MetaField)) : Except String MetaRecord :=
  values.foldlM serialize { schema, fieldData := [] }

def key (record : MetaRecord) : List (Option MetaField) :=
  (record.schema.partitionKeyFields ++ record.schema.rangeKeyFields).map fun i =>
    (record.fieldData[i]?).join

def keyLe (record other : MetaRecord) : Bool :=
  PrefixOrder.lexCompare (record.key.map fun _ => compareMetaFields) record.key other.key != .gt

def stringField (record : MetaRecord) (i : Nat) : Option String :=
  (record.fieldData[i]?).join.bind MetaField.asString?

end MetaRecord

abbrev MetaReader := StateT Nat (Except String)

namespace MetaRecord

def deserializeNext (record : MetaRecord) (type : FieldType) : MetaReader (Option MetaField) :=
  fun cursor =>
    match record.schema.fields[cursor]? with
    | none => throw "Cannot deserialize a field past the end of the schema"
    | some field =>
        if field.type = type then pure ((record.fieldData[cursor]?).join, cursor + 1)
        else throw "Schema not followed in record deserialization"

def deserializeInt (record : MetaRecord) (type : FieldType) : MetaReader (Option Int) := do
  match ← record.deserializeNext type with
  | none => pure none
  | some value =>
      match value.asInt? with
      | some i => pure (some i)
      | none => throw "Schema not followed in record deserialization"

def deserializeString (record : MetaRecord) : MetaReader (Option String) := do
  match ← record.deserializeNext .STRING with
  | none => pure none
  | some value =>
      match value.asString? with
      | some s => pure (some s)
      | none => throw "Schema not followed in record deserialization"

def deserializeBool (record : MetaRecord) : MetaReader (Option Bool) := do
  match ← record.deserializeNext .BOOL with
  | none => pure none
  | some value =>
      match value.asBool? with
      | some b => pure (some b)
      | none => throw "Schema not followed in record deserialization"

end MetaRecord

def optionalValue {α : Type} : Option α → MetaReader α
  | some value => pure value
  | none => throw "bad optional access"

def K2SqlDataType.toInt : K2SqlDataType → Int
  | .K2SQL_DATA_TYPE_INT8 => 1
  | .K2SQL_DATA_TYPE_INT16 => 2
  | .K2SQL_DATA_TYPE_INT32 => 3
  | .K2SQL_DATA_TYPE_INT64 => 4
  | .K2SQL_DATA_TYPE_STRING => 5
  | .K2SQL_DATA_TYPE_BOOL => 6
  | .K2SQL_DATA_TYPE_FLOAT => 7
  | .K2SQL_DATA_TYPE_DOUBLE => 8
  | .K2SQL_DATA_TYPE_BINARY => 9
  | .K2SQL_DATA_TYPE_TIMESTAMP => 10
  | .K2SQL_DATA_TYPE_DECIMAL => 11
  | .K2SQL_DATA_TYPE_UINT32 => 102
  | .K2SQL_DATA_TYPE_UINT64 => 103

def K2SqlDataType.ofInt? (value : Int) : Option K2SqlDataType :=
  [K2SqlDataType.K2SQL_DATA_TYPE_INT8, .K2SQL_DATA_TYPE_INT16, .K2SQL_DATA_TYPE_INT32,
    .K2SQL_DATA_TYPE_INT64, .K2SQL_DATA_TYPE_STRING, .K2SQL_DATA_TYPE_BOOL, .K2SQL_DATA_TYPE_FLOAT,
    .K2SQL_DATA_TYPE_DOUBLE, .K2SQL_DATA_TYPE_BINARY, .K2SQL_DATA_TYPE_TIMESTAMP,
    .K2SQL_DATA_TYPE_DECIMAL, .K2SQL_DATA_TYPE_UINT32, .K2SQL_DATA_TYPE_UINT64].find?
      (·.toInt == value)

def SortingType.toInt : SortingType → Int
  | .kNotSpecified => 0
  | .kAscending => 1
  | .kDescending => 2
  | .kAscendingNullsLast => 3
  | .kDescendingNullsLast => 4

def SortingType.ofInt? (value : Int) : Option SortingType :=
  [SortingType.kNotSpecified, .kAscending, .kDescending, .kAscendingNullsLast,
    .kDescendingNullsLast].find? (·.toInt == value)

def IndexPermissions.toInt : IndexPermissions → Int
  | .INDEX_PERM_DELETE_ONLY => 0
  | .INDEX_PERM_WRITE_AND_DELETE => 2
  | .INDEX_PERM_DO_BACKFILL => 4
  | .INDEX_PERM_READ_WRITE_AND_DELETE => 6
  | .INDEX_PERM_WRITE_AND_DELETE_WHILE_REMOVING => 8
  | .INDEX_PERM_DELETE_ONLY_WHILE_REMOVING => 10
  | .INDEX_PERM_INDEX_UNUSED => 12
  | .INDEX_PERM_NOT_USED => 14

def IndexPermissions.ofInt? (value : Int) : Option IndexPermissions :=
  [IndexPermissions.INDEX_PERM_DELETE_ONLY, .INDEX_PERM_WRITE_AND_DELETE, .INDEX_PERM_DO_BACKFILL,
    .INDEX_PERM_READ_WRITE_AND_DELETE, .INDEX_PERM_WRITE_AND_DELETE_WHILE_REMOVING,
    .INDEX_PERM_DELETE_ONLY_WHILE_REMOVING, .INDEX_PERM_INDEX_UNUSED,
    .INDEX_PERM_NOT_USED].find? (·.toInt == value)

@[simp] theorem K2SqlDataType.ofInt?_toInt (type : K2SqlDataType) :
    K2SqlDataType.ofInt? type.toInt = some type := by
  cases type <;> rfl

@[simp] theorem SortingType.ofInt?_toInt (sortingType : SortingType) :
    SortingType.ofInt? sortingType.toInt = some sortingType := by
  cases sortingType <;> rfl

@[simp] theorem IndexPermissions.ofInt?_toInt (permissions : IndexPermissions) :
    IndexPermissions.ofInt? permissions.toInt = some permissions := by
  cases permissions <;> rfl

theorem UInt32.ofInt_toNat_eq (value : UInt32) : UInt32.ofInt (value.toNat : Int) = value := by
  have bound := value.toNat_lt
  rw [UInt32.ofInt, Int.emod_eq_of_lt (by omega) (by omega)]
  simp

def CatalogConsts.oid_table_meta : Int := 4800
def CatalogConsts.oid_tablecolumn_meta : Int := 4801
def CatalogConsts.oid_indexcolumn_meta : Int := 4802

def skvSchemaTableMeta : Schema :=
  { name := "K2RESVD_SCHEMA_SQL_TABLE_META", version := 1,
    fields := [{ type := .INT64T, name := "SchemaTableId" }, { type := .INT64T, name := "SchemaIndexId" },
      { type := .STRING, name := "TableId" }, { type := .STRING, name := "TableName" },
      { type := .INT64T, name := "TableOid" }, { type := .STRING, name := "TableUuid" },
      { type := .BOOL, name := "IsSysTable" }, { type := .BOOL, name := "IsShared" },
      { type := .BOOL, name := "IsIndex" }, { type := .BOOL, name := "IsUnique" },
      { type := .STRING, name := "BaseTableId" }, { type := .INT16T, name := "IndexPermission" },
      { type := .INT32T, name := "NextColumnId" }, { type := .INT32T, name := "SchemaVersion" }],
    partitionKeyFields := [0, 1, 2], rangeKeyFields := [] }

def skvSchemaTablecolumnMeta : Schema :=
  { name := "K2RESVD_SCHEMA_SQL_TABLECOLUMN_META", version := 1,
    fields := [{ type := .INT64T, name := "SchemaTableId" }, { type := .INT64T, name := "SchemaIndexId" },
      { type := .STRING, name := "TableId" }, { type := .INT32T, name := "ColumnId" },
      { type := .STRING, name := "ColumnName" }, { type := .INT16T, name := "ColumnType" },
      { type := .BOOL, name := "IsNullable" }, { type := .BOOL, name := "IsPrimary" },
      { type := .BOOL, name := "IsHash" }, { type := .INT32T, name := "Order" },
      { type := .INT16T, name := "SortingType" }],
    partitionKeyFields := [0, 1, 2], rangeKeyFields := [3] }

def skvSchemaIndexcolumnMeta : Schema :=
  { name := "K2RESVD_SCHEMA_SQL_INDEXCOLUMN_META", version := 1,
    fields := [{ type := .INT64T, name := "SchemaTableId" }, { type := .INT64T, name := "SchemaIndexId" },
      { type := .STRING, name := "TableId" }, { type := .INT32T, name := "ColumnId" },
      { type := .STRING, name := "ColumnName" }, { type := .INT16T, name := "ColumnType" },
      { type := .BOOL, name := "IsNullable" }, { type := .BOOL, name := "IsHash" },
      { type := .BOOL, name := "IsRange" }, { type := .INT32T, name := "Order" },
      { type := .INT16T, name := "SortingType" }, { type := .INT32T, name := "BaseColumnId" }],
    partitionKeyFields := [0, 1, 2], rangeKeyFields := [3] }

namespace TableInfoHandler

def tableMetaValues (table : TableInfo) : List (Option MetaField) :=
  [some (.int64 CatalogConsts.oid_table_meta), some (.int64 0), some (.string table.tableId),
    some (.string table.tableName), some (.int64 table.tableOid.toNat), some (.string table.tableUuid),
    some (.bool table.isSysTable), some (.bool table.isShared), some (.bool false),
    some (.bool false), none, none, some (.int32 table.nextColumnId),
    some (.int32 table.schema.version.toNat)]

def deriveTableMetaRecord (table : TableInfo) : Except String MetaRecord :=
  MetaRecord.serializeAll skvSchemaTableMeta (tableMetaValues table)

def indexMetaValues (index : IndexInfo) (isSysTable : Bool) (nextColumnId : Int) :
    List (Option MetaField) :=
  [some (.int64 CatalogConsts.oid_table_meta), some (.int64 0), some (.string index.tableId),
    some (.string index.tableName), some (.int64 index.tableOid.toNat), some (.string index.tableUuid),
    some (.bool isSysTable), some (.bool index.isShared), some (.bool true),
    some (.bool index.isUnique), some (.string index.baseTableId),
    some (.int16 index.indexPermissions.toInt), some (.int32 nextColumnId),
    some (.int32 index.schemaVersion.toNat)]

def deriveTableMetaRecordOfIndex (index : IndexInfo) (isSysTable : Bool) (nextColumnId : Int) :
    Except String MetaRecord :=
  MetaRecord.serializeAll skvSchemaTableMeta (indexMetaValues index isSysTable nextColumnId)

def tableColumnMetaValues (table : TableInfo) (column : ColumnSchema) (columnId : Int) :
    List (Option MetaField) :=
  [some (.int64 CatalogConsts.oid_tablecolumn_meta), some (.int64 0), some (.string table.tableId),
    some (.int32 columnId), some (.string column.name), some (.int16 column.type.toInt),
    some (.bool column.isNullable), some (.bool column.isKey), some (.bool column.isHash),
    some (.int32 column.order), some (.int16 column.sortingType.toInt)]

/-- `DeriveTableColumnMetaRecords`: one record for each position `i`, with the column and the id
at that position. -/
def deriveTableColumnMetaRecords (table : TableInfo) : Except String (List MetaRecord) :=
  (table.schema.columns.zip table.schema.columnIds).mapM fun (column, columnId) =>
    MetaRecord.serializeAll skvSchemaTablecolumnMeta (tableColumnMetaValues table column columnId)

def indexColumnMetaValues (index : IndexInfo) (column : IndexColumn) : List (Option MetaField) :=
  [some (.int64 CatalogConsts.oid_indexcolumn_meta), some (.int64 0), some (.string index.tableId),
    some (.int32 column.columnId), some (.string column.columnName), some (.int16 column.type.toInt),
    some (.bool column.isNullable), some (.bool column.isHash), some (.bool column.isRange),
    some (.int32 column.order), some (.int16 column.sortingType.toInt),
    some (.int32 column.baseColumnId)]

def deriveIndexColumnMetaRecords (index : IndexInfo) : Except String (List MetaRecord) :=
  index.columns.mapM fun column =>
    MetaRecord.serializeAll skvSchemaIndexcolumnMeta (indexColumnMetaValues index column)

end TableInfoHandler

structure MetaStore where
  records : String → List MetaRecord

namespace MetaStore

def put (store : MetaStore) (record : MetaRecord) : MetaStore :=
  ⟨Function.update store.records record.schema.name
    ((store.records record.schema.name).filter (·.key != record.key) ++ [record])⟩

def find (store : MetaStore) (recordKey : MetaRecord) : Option MetaRecord :=
  (store.records recordKey.schema.name).find? (·.key == recordKey.key)

def select (store : MetaStore) (schemaName : String) (keyPrefix : List (Option MetaField))
    (filter : MetaRecord → Bool) : List MetaRecord :=
  ((store.records schemaName).filter fun record =>
    keyPrefix.isPrefixOf record.fieldData && filter record).mergeSort MetaRecord.keyLe

end MetaStore

/-- What the catalog assumes of SKV's `UpsertRecord`, `ReadRecord` and its prefix scans of meta
records: an upsert is accepted and replaces the record of its key, a read finds the record of its
key, and a scan returns the records of its prefix and filter in key order. -/
structure MetaSkv where
  upsert : MetaStore → MetaRecord → K2Status × MetaStore
  read : MetaStore → MetaRecord → K2Status × Option MetaRecord
  scan : MetaStore → String → List (Option MetaField) → (MetaRecord → Bool) → List MetaRecord
  upsert_accepted : ∀ store record, upsert store record = (K2Status.OK, store.put record)
  read_found : ∀ store recordKey record, store.find recordKey = some record →
    read store recordKey = (K2Status.OK, some record)
  read_missing : ∀ store recordKey, store.find recordKey = none →
    (read store recordKey).2 = none ∧ (read store recordKey).1.code = 404
  scan_keyOrder : ∀ store schemaName keyPrefix filter,
    scan store schemaName keyPrefix filter = store.select schemaName keyPrefix filter

def MetaSkv.reference : MetaSkv where
  upsert store record := (K2Status.OK, store.put record)
  read store recordKey := match store.find recordKey with
    | some record => (K2Status.OK, some record)
    | none => ({ code := 404, message := "Record not found" }, none)
  scan := MetaStore.select
  upsert_accepted _ _ := rfl
  read_found store recordKey record found := by simp [found]
  read_missing store recordKey missing := by simp [missing]
  scan_keyOrder _ _ _ _ := rfl

namespace TableInfoHandler

def runtimeError (message : String) : Status :=
  { code := .runtimeError, message }

def upsertRecords (skv : MetaSkv) (store : MetaStore) (records : List MetaRecord) :
    Except Status MetaStore :=
  records.foldlM (fun store record =>
    let (status, next) := skv.upsert store record
    if status.is2xxOK then pure next else throw (K2Adapter.k2StatusToK2PgStatus status)) store

def persistIndexMeta (skv : MetaSkv) (store : MetaStore) (table : TableInfo) (index : IndexInfo) :
    Except Status MetaStore := do
  let indexRecord ← (deriveTableMetaRecordOfIndex index table.isSysTable table.nextColumnId).mapError
    runtimeError
  let store ← upsertRecords skv store [indexRecord]
  let columnRecords ← (deriveIndexColumnMetaRecords index).mapError runtimeError
  upsertRecords skv store columnRecords

def persistTableMeta (skv : MetaSkv) (store : MetaStore) (table : TableInfo) :
    Except Status MetaStore := do
  let tableRecord ← (deriveTableMetaRecord table).mapError runtimeError
  let store ← upsertRecords skv store [tableRecord]
  let columnRecords ← (deriveTableColumnMetaRecords table).mapError runtimeError
  let store ← upsertRecords skv store columnRecords
  table.indexMap.foldlM (fun store entry => persistIndexMeta skv store table entry.2) store

def tableMetaKey (tableId : String) : MetaRecord :=
  { schema := skvSchemaTableMeta,
    fieldData := [some (.int64 CatalogConsts.oid_table_meta), some (.int64 0), some (.string tableId)] }

def fetchTableMetaSKVRecord (skv : MetaSkv) (store : MetaStore) (tableId : String) :
    Except Status MetaRecord :=
  match skv.read store (tableMetaKey tableId) with
  | (_, some record) => pure record
  | (status, none) => throw (K2Adapter.k2StatusToK2PgStatus status)

def fetchTableColumnMetaSKVRecords (skv : MetaSkv) (store : MetaStore) (tableId : String) :
    List MetaRecord :=
  skv.scan store skvSchemaTablecolumnMeta.name
    [some (.int64 CatalogConsts.oid_tablecolumn_meta), some (.int64 0), some (.string tableId)]
    fun record => record.stringField 2 == some tableId

def fetchIndexColumnMetaSKVRecords (skv : MetaSkv) (store : MetaStore) (tableId : String) :
    List MetaRecord :=
  skv.scan store skvSchemaIndexcolumnMeta.name
    [some (.int64 CatalogConsts.oid_indexcolumn_meta), some (.int64 0), some (.string tableId)]
    fun record => record.stringField 2 == some tableId

def fetchIndexMetaSKVRecords (skv : MetaSkv) (store : MetaStore) (baseTableId : String) :
    List MetaRecord :=
  skv.scan store skvSchemaTableMeta.name [some (.int64 CatalogConsts.oid_table_meta), some (.int64 0)]
    fun record => record.stringField 10 == some baseTableId

structure TableMetaFields where
  tableName : String
  tableOid : UInt32
  tableUuid : String
  isSysTable : Bool
  isShared : Bool
  nextColumnId : Int
  version : UInt32
  deriving DecidableEq, Repr

def readTableMeta (record : MetaRecord) : MetaReader TableMetaFields := do
  let _ ← record.deserializeInt .INT64T
  let _ ← record.deserializeInt .INT64T
  let tableId ← optionalValue (← record.deserializeString)
  let tableName ← optionalValue (← record.deserializeString)
  let tableOid ← optionalValue (← record.deserializeInt .INT64T)
  let tableUuid ← optionalValue (← record.deserializeString)
  let isSysTable ← optionalValue (← record.deserializeBool)
  let isShared ← optionalValue (← record.deserializeBool)
  let isIndex ← optionalValue (← record.deserializeBool)
  if isIndex then throw ("Table " ++ tableId ++ " should not be an index")
  let _ ← record.deserializeBool
  let _ ← record.deserializeString
  let _ ← record.deserializeInt .INT16T
  let nextColumnId ← optionalValue (← record.deserializeInt .INT32T)
  let version ← optionalValue (← record.deserializeInt .INT32T)
  pure { tableName, tableOid := UInt32.ofInt tableOid, tableUuid, isSysTable, isShared, nextColumnId,
         version := UInt32.ofInt version }

structure TableColumnFields where
  colId : Int
  colName : String
  colType : Int
  isNullable : Bool
  isPrimary : Bool
  isHash : Bool
  colOrder : Int
  sortingType : Int
  deriving DecidableEq, Repr

def readTableColumnFields (record : MetaRecord) : MetaReader TableColumnFields := do
  let _ ← record.deserializeInt .INT64T
  let _ ← record.deserializeInt .INT64T
  let _ ← optionalValue (← record.deserializeString)
  let colId ← optionalValue (← record.deserializeInt .INT32T)
  let colName ← optionalValue (← record.deserializeString)
  let colType ← optionalValue (← record.deserializeInt .INT16T)
  let isNullable ← optionalValue (← record.deserializeBool)
  let isPrimary ← optionalValue (← record.deserializeBool)
  let isHash ← optionalValue (← record.deserializeBool)
  let colOrder ← optionalValue (← record.deserializeInt .INT32T)
  let sortingType ← optionalValue (← record.deserializeInt .INT16T)
  pure { colId, colName, colType, isNullable, isPrimary, isHash, colOrder, sortingType }

def TableColumnFields.toColumn (fields : TableColumnFields) : Except String (ColumnSchema × Int) := do
  let some type := K2SqlDataType.ofInt? fields.colType | throw "Unsupported column type"
  let some sortingType := SortingType.ofInt? fields.sortingType | throw "Unsupported sorting type"
  pure ({ name := fields.colName, type, isNullable := fields.isNullable, isKey := fields.isPrimary,
          isHash := fields.isHash, order := fields.colOrder, sortingType }, fields.colId)

def readTableColumn (record : MetaRecord) : Except String (ColumnSchema × Int) := do
  let fields ← (readTableColumnFields record).run' 0
  fields.toColumn

/-- `BuildTableInfo`: the columns in the order of their records, the number of key columns
counted from their `IsPrimary` flags.  The schema is set to the record's version and then passed
by value to the `TableInfo` constructor, which copies it. -/
def buildTableInfo (databaseId databaseName : String) (tableMeta : MetaRecord)
    (tableColumns : List MetaRecord) : Except String TableInfo := do
  let fields ← (readTableMeta tableMeta).run' 0
  let columns ← tableColumns.mapM readTableColumn
  let schema ← TableSchema.reset (columns.map Prod.fst) (columns.map Prod.snd)
    ((columns.map Prod.fst).countP (·.isKey))
  pure { databaseId, databaseName, tableOid := fields.tableOid, tableName := fields.tableName,
         tableUuid := fields.tableUuid, schema := { schema with version := fields.version }.copy,
         nextColumnId := fields.nextColumnId, isSysTable := fields.isSysTable,
         isShared := fields.isShared }

structure IndexMetaFields where
  tableId : String
  tableName : String
  tableOid : UInt32
  tableUuid : String
  isShared : Bool
  isUnique : Bool
  baseTableId : String
  indexPermission : Int
  version : UInt32
  deriving DecidableEq, Repr

def readIndexMeta (record : MetaRecord) : MetaReader IndexMetaFields := do
  let _ ← record.deserializeInt .INT64T
  let _ ← record.deserializeInt .INT64T
  let tableId ← optionalValue (← record.deserializeString)
  let tableName ← optionalValue (← record.deserializeString)
  let tableOid ← optionalValue (← record.deserializeInt .INT64T)
  let tableUuid ← optionalValue (← record.deserializeString)
  let _ ← record.deserializeBool
  let isShared ← optionalValue (← record.deserializeBool)
  let isIndex ← optionalValue (← record.deserializeBool)
  if !isIndex then throw ("Table " ++ tableId ++ " should be an index")
  let isUnique ← optionalValue (← record.deserializeBool)
  let baseTableId ← optionalValue (← record.deserializeString)
  let indexPermission ← optionalValue (← record.deserializeInt .INT16T)
  let _ ← record.deserializeInt .INT32T
  let version ← optionalValue (← record.deserializeInt .INT32T)
  pure { tableId, tableName, tableOid := UInt32.ofInt tableOid, tableUuid, isShared, isUnique,
         baseTableId, indexPermission, version := UInt32.ofInt version }

structure IndexColumnFields where
  colId : Int
  colName : String
  colType : Int
  isNullable : Bool
  isHash : Bool
  isRange : Bool
  colOrder : Int
  sortingType : Int
  baseColId : Int
  deriving DecidableEq, Repr

def readIndexColumnFields (record : MetaRecord) : MetaReader IndexColumnFields := do
  let _ ← record.deserializeInt .INT64T
  let _ ← record.deserializeInt .INT64T
  let _ ← optionalValue (← record.deserializeString)
  let colId ← optionalValue (← record.deserializeInt .INT32T)
  let colName ← optionalValue (← record.deserializeString)
  let colType ← optionalValue (← record.deserializeInt .INT16T)
  let isNullable ← optionalValue (← record.deserializeBool)
  let isHash ← optionalValue (← record.deserializeBool)
  let isRange ← optionalValue (← record.deserializeBool)
  let colOrder ← optionalValue (← record.deserializeInt .INT32T)
  let sortingType ← optionalValue (← record.deserializeInt .INT16T)
  let baseColId ← optionalValue (← record.deserializeInt .INT32T)
  pure { colId, colName, colType, isNullable, isHash, isRange, colOrder, sortingType, baseColId }

def IndexColumnFields.toIndexColumn (fields : IndexColumnFields) : Except String IndexColumn := do
  let some type := K2SqlDataType.ofInt? fields.colType | throw "Unsupported column type"
  let some sortingType := SortingType.ofInt? fields.sortingType | throw "Unsupported sorting type"
  pure { columnId := fields.colId, columnName := fields.colName, type, isNullable := fields.isNullable,
         isHash := fields.isHash, isRange := fields.isRange, order := fields.colOrder, sortingType,
         baseColumnId := fields.baseColId }

def readIndexColumn (record : MetaRecord) : Except String IndexColumn := do
  let fields ← (readIndexColumnFields record).run' 0
  fields.toIndexColumn

/-- `BuildIndexInfo(txnHandler, collection_name, index_table_meta)`: the index's columns in the
order of their records, and the `static_cast` of the permissions. -/
def buildIndexInfoOfRecord (skv : MetaSkv) (store : MetaStore) (indexTableMeta : MetaRecord) :
    Except String IndexInfo := do
  let fields ← (readIndexMeta indexTableMeta).run' 0
  let some indexPermissions := IndexPermissions.ofInt? fields.indexPermission
    | throw "Unsupported index permissions"
  let columns ← (fetchIndexColumnMetaSKVRecords skv store fields.tableId).mapM readIndexColumn
  pure { tableName := fields.tableName, tableOid := fields.tableOid, tableUuid := fields.tableUuid,
         baseTableId := fields.baseTableId, schemaVersion := fields.version, isUnique := fields.isUnique,
         isShared := fields.isShared, columns, indexPermissions }

/-- `GetTable`: the table's record, its columns and its indexes.  A missing table record ends with
the status of the read; an exception on the way ends with `RuntimeError`. -/
def getTable (skv : MetaSkv) (store : MetaStore) (collectionName databaseName tableId : String) :
    Except Status TableInfo := do
  let tableMeta ← fetchTableMetaSKVRecord skv store tableId
  let built : Except String TableInfo := do
    let table ← buildTableInfo collectionName databaseName tableMeta
      (fetchTableColumnMetaSKVRecords skv store tableId)
    (fetchIndexMetaSKVRecords skv store tableId).foldlM (fun table indexRecord => do
      let index ← buildIndexInfoOfRecord skv store indexRecord
      pure (table.addSecondaryIndex index.tableId index)) table
  built.mapError runtimeError

end TableInfoHandler

def fitsFields : List SchemaField → List (Option MetaField) → Bool
  | _, [] => true
  | field :: fields, value :: values =>
      (value.all fun value => field.type == value.type) && fitsFields fields values
  | [], _ :: _ => false

theorem foldlM_serialize (schema : Schema) : ∀ (values pre : List (Option MetaField)),
    fitsFields (schema.fields.drop pre.length) values = true →
      values.foldlM MetaRecord.serialize ⟨schema, pre⟩ = pure ⟨schema, pre ++ values⟩ := by
  intro values
  induction values with
  | nil => intro pre _; simp
  | cons value rest ih =>
      intro pre fits
      cases fields : schema.fields.drop pre.length with
      | nil => rw [fields] at fits; cases fits
      | cons field others =>
          rw [fields] at fits
          simp only [fitsFields, Bool.and_eq_true] at fits
          have atCursor : schema.fields[pre.length]? = some field := by
            rw [← List.head?_drop, fields]
            rfl
          have restFits : fitsFields (schema.fields.drop (pre ++ [value]).length) rest = true := by
            rw [List.length_append, List.length_singleton, ← List.drop_drop, fields]
            exact fits.2
          have step : MetaRecord.serialize ⟨schema, pre⟩ value = pure ⟨schema, pre ++ [value]⟩ := by
            cases value with
            | none => simp [MetaRecord.serialize, atCursor]
            | some value =>
                have sameType : field.type = value.type := by simpa using fits.1
                simp [MetaRecord.serialize, atCursor, sameType]
          rw [List.foldlM_cons, step, pure_bind, ih (pre ++ [value]) restFits]
          simp

theorem serializeAll_of_fits {schema : Schema} {values : List (Option MetaField)}
    (fits : fitsFields schema.fields values = true) :
    MetaRecord.serializeAll schema values = .ok ⟨schema, values⟩ :=
  foldlM_serialize schema values [] fits

namespace TableInfoHandler

def tableRecord (table : TableInfo) : MetaRecord :=
  ⟨skvSchemaTableMeta, tableMetaValues table⟩

def indexRecord (table : TableInfo) (index : IndexInfo) : MetaRecord :=
  ⟨skvSchemaTableMeta, indexMetaValues index table.isSysTable table.nextColumnId⟩

def tableColumnRecord (table : TableInfo) (entry : ColumnSchema × Int) : MetaRecord :=
  ⟨skvSchemaTablecolumnMeta, tableColumnMetaValues table entry.1 entry.2⟩

def indexColumnRecord (index : IndexInfo) (column : IndexColumn) : MetaRecord :=
  ⟨skvSchemaIndexcolumnMeta, indexColumnMetaValues index column⟩

theorem deriveTableMetaRecord_eq (table : TableInfo) :
    deriveTableMetaRecord table = .ok (tableRecord table) :=
  serializeAll_of_fits rfl

theorem deriveTableMetaRecordOfIndex_eq (table : TableInfo) (index : IndexInfo) :
    deriveTableMetaRecordOfIndex index table.isSysTable table.nextColumnId =
      .ok (indexRecord table index) :=
  serializeAll_of_fits rfl

theorem deriveTableColumnMetaRecords_eq (table : TableInfo) :
    deriveTableColumnMetaRecords table =
      .ok ((table.schema.columns.zip table.schema.columnIds).map (tableColumnRecord table)) := by
  have each : (fun (entry : ColumnSchema × Int) => MetaRecord.serializeAll skvSchemaTablecolumnMeta
      (tableColumnMetaValues table entry.1 entry.2)) = fun entry => pure (tableColumnRecord table entry) := by
    funext entry
    exact serializeAll_of_fits rfl
  unfold deriveTableColumnMetaRecords
  rw [each]
  exact List.mapM_pure

theorem deriveIndexColumnMetaRecords_eq (index : IndexInfo) :
    deriveIndexColumnMetaRecords index = .ok (index.columns.map (indexColumnRecord index)) := by
  have each : (fun column => MetaRecord.serializeAll skvSchemaIndexcolumnMeta
      (indexColumnMetaValues index column)) = fun column => pure (indexColumnRecord index column) := by
    funext column
    exact serializeAll_of_fits rfl
  unfold deriveIndexColumnMetaRecords
  rw [each]
  exact List.mapM_pure

theorem readTableMeta_tableRecord (table : TableInfo) :
    (readTableMeta (tableRecord table)).run' 0 =
      .ok { tableName := table.tableName, tableOid := table.tableOid, tableUuid := table.tableUuid,
            isSysTable := table.isSysTable, isShared := table.isShared,
            nextColumnId := table.nextColumnId, version := table.schema.version } := by
  have raw : (readTableMeta (tableRecord table)).run' 0 =
      .ok { tableName := table.tableName, tableOid := UInt32.ofInt table.tableOid.toNat,
            tableUuid := table.tableUuid, isSysTable := table.isSysTable, isShared := table.isShared,
            nextColumnId := table.nextColumnId, version := UInt32.ofInt table.schema.version.toNat } := rfl
  rw [raw, UInt32.ofInt_toNat_eq, UInt32.ofInt_toNat_eq]

theorem readTableColumn_tableColumnRecord (table : TableInfo) (entry : ColumnSchema × Int) :
    readTableColumn (tableColumnRecord table entry) = .ok entry := by
  obtain ⟨column, columnId⟩ := entry
  have raw : (readTableColumnFields (tableColumnRecord table (column, columnId))).run' 0 =
      pure ⟨columnId, column.name, column.type.toInt, column.isNullable, column.isKey, column.isHash,
        column.order, column.sortingType.toInt⟩ := rfl
  unfold readTableColumn
  rw [raw]
  simp [TableColumnFields.toColumn]
  rfl

theorem readIndexMeta_indexRecord (table : TableInfo) (index : IndexInfo) :
    (readIndexMeta (indexRecord table index)).run' 0 =
      .ok { tableId := index.tableId, tableName := index.tableName, tableOid := index.tableOid,
            tableUuid := index.tableUuid, isShared := index.isShared, isUnique := index.isUnique,
            baseTableId := index.baseTableId, indexPermission := index.indexPermissions.toInt,
            version := index.schemaVersion } := by
  have raw : (readIndexMeta (indexRecord table index)).run' 0 =
      .ok { tableId := index.tableId, tableName := index.tableName,
            tableOid := UInt32.ofInt index.tableOid.toNat, tableUuid := index.tableUuid,
            isShared := index.isShared, isUnique := index.isUnique, baseTableId := index.baseTableId,
            indexPermission := index.indexPermissions.toInt,
            version := UInt32.ofInt index.schemaVersion.toNat } := rfl
  rw [raw, UInt32.ofInt_toNat_eq, UInt32.ofInt_toNat_eq]

theorem readIndexColumn_indexColumnRecord (index : IndexInfo) (column : IndexColumn) :
    readIndexColumn (indexColumnRecord index column) = .ok column := by
  have raw : (readIndexColumnFields (indexColumnRecord index column)).run' 0 =
      pure ⟨column.columnId, column.columnName, column.type.toInt, column.isNullable, column.isHash,
        column.isRange, column.order, column.sortingType.toInt, column.baseColumnId⟩ := rfl
  unfold readIndexColumn
  rw [raw]
  simp [IndexColumnFields.toIndexColumn]
  rfl

end TableInfoHandler

end ChogoriSql
