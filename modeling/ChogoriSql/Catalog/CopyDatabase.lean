import ChogoriSql.Catalog.Created
import ChogoriSql.Catalog.Database
import ChogoriSql.Adapter.WriteOp

/-! `CREATE DATABASE ... TEMPLATE`: step 3 of `SqlCatalogManager::CreateDatabase`, which lists the
source's tables with `TableInfoHandler::ListTableIds` and copies each with `CopyTable`.  The table is
cloned into the target's catalog by `CreateOrUpdateTable`, which also creates its SKV schemas, and
the records of a table that is not shared, and of each of its indexes, are copied by
`CopySKVTable`.

A collection is the meta records of its catalog, its SKV schemas and the records of each schema.
SKV's calls are a parameter, `CollectionSkv`, with the laws the copy rests on: `GetSchema` finds a
schema by name and version, `CreateSchema` and `UpsertRecord` are accepted, and a scan returns the
records of one schema in a key range; `cloneToOtherSchema` keeps a record's fields under another
schema.  Nothing else writes
to the two collections while the copy runs and the three transactions commit at its end, so each
collection is a value passed from call to call. -/

namespace ChogoriSql

structure SkvCollection where
  metaStore : MetaStore
  schemas : List Schema
  records : String → List SKVRecord

namespace SkvCollection

def findSchema (coll : SkvCollection) (name : String) (version : Nat) : Option Schema :=
  coll.schemas.find? fun schema => schema.name == name && schema.version == version

def putRecord (coll : SkvCollection) (record : SKVRecord) : SkvCollection :=
  let kept := (coll.records record.schema.name).filter (·.getKey != record.getKey)
  { coll with records := Function.update coll.records record.schema.name (kept ++ [record]) }

def HasSchema (coll : SkvCollection) (name : String) (version : Nat) : Prop :=
  ∃ schema ∈ coll.schemas, schema.name = name ∧ schema.version = version

end SkvCollection

/-- What the copy assumes of SKV's `GetSchema`, `CreateSchema`, `UpsertRecord` and `ScanRead`:
a schema is found by name and version, and one that is not there answers 404; a created schema
and an upsert are accepted, the upsert replacing the record of its key; and a scan returns the
records of one schema in the key range of its start and end records. -/
structure CollectionSkv where
  metaSkv : MetaSkv
  getSchema : SkvCollection → String → Nat → Except K2Status Schema
  createSchema : SkvCollection → Schema → SkvCollection
  upsertRecord : SkvCollection → SKVRecord → SkvCollection
  scanRead : SkvCollection → String → SKVRecord → SKVRecord → List SKVRecord
  fieldCompare : FieldValue → FieldValue → Ordering
  fieldOrder : FieldOrder fieldCompare
  getSchema_found : ∀ coll name version schema, coll.findSchema name version = some schema →
    getSchema coll name version = .ok schema
  getSchema_missing : ∀ coll name version, coll.findSchema name version = none →
    getSchema coll name version = .error { code := 404 }
  createSchema_appends : ∀ coll schema,
    createSchema coll schema = { coll with schemas := coll.schemas ++ [schema] }
  upsertRecord_replaces : ∀ coll record, upsertRecord coll record = coll.putRecord record
  scanRead_range : ∀ coll schemaName startScanRecord endScanRecord record,
    record ∈ scanRead coll schemaName startScanRecord endScanRecord ↔
      record ∈ coll.records schemaName ∧
        InScanRange fieldCompare startScanRecord endScanRecord record.fieldData

def CollectionSkv.reference : CollectionSkv where
  metaSkv := MetaSkv.reference
  getSchema coll name version := match coll.findSchema name version with
    | some schema => .ok schema
    | none => .error { code := 404 }
  createSchema coll schema := { coll with schemas := coll.schemas ++ [schema] }
  upsertRecord := SkvCollection.putRecord
  scanRead coll schemaName := scanInKeyOrder FieldValue.compare (coll.records schemaName)
  fieldCompare := FieldValue.compare
  fieldOrder := FieldValue.compare_fieldOrder
  getSchema_found coll name version schema found := by simp [found]
  getSchema_missing coll name version missing := by simp [missing]
  createSchema_appends _ _ := rfl
  upsertRecord_replaces _ _ := rfl
  scanRead_range coll schemaName := (scanInKeyOrder_rangeScan FieldValue.compare).mem_iff _

def SKVRecord.cloneToOtherSchema (record : SKVRecord) (collectionName : String) (schema : Schema) :
    SKVRecord :=
  { collectionName, schema, fieldData := record.fieldData }

def CatalogConsts.shared_table_skv_colllection_id : String := "00000001000030008000000000000000"

def CatalogConsts.physicalCollection (databaseId : String) (isShared : Bool) : String :=
  if isShared then CatalogConsts.shared_table_skv_colllection_id else databaseId

def CatalogConsts.isOnPhysicalCollection (databaseId : String) (isShared : Bool) : Bool :=
  if isShared then
    physicalCollection databaseId isShared == CatalogConsts.shared_table_skv_colllection_id
  else true

@[simp] theorem CatalogConsts.isOnPhysicalCollection_eq_true (databaseId : String) (isShared : Bool) :
    CatalogConsts.isOnPhysicalCollection databaseId isShared = true := by
  cases isShared <;> simp [isOnPhysicalCollection, physicalCollection]

def IndexColumn.toSchemaField? (column : IndexColumn) : Option SchemaField :=
  match column.sortingType with
  | .kAscending => some { type := toK2Type column.type, name := column.columnName,
                          descending := false, nullLast := false }
  | .kDescending => none
  | .kAscendingNullsLast => some { type := toK2Type column.type, name := column.columnName,
                                   descending := false, nullLast := true }
  | .kDescendingNullsLast => none
  | .kNotSpecified => some { type := toK2Type column.type, name := column.columnName }

namespace TableInfoHandler

/-- `DeriveSKVSchemaFromTableInfo(table)`, the schema `deriveSKVSchemaFromTableInfo` gives the
table's columns, under the table's id and version. -/
def deriveSKVSchemaFromTableInfo (table : TableInfo) : Schema :=
  { name := table.tableId, version := table.schema.version.toNat,
    fields := defaultPartitionKeyFields ++ table.schema.columns.map ColumnSchema.toSchemaField,
    partitionKeyFields := [0, 1] ++ keyFieldIndexes table.schema.columns 2 }

def indexKeyFieldIndexes (columns : List IndexColumn) : List Nat :=
  ((columns.zipIdx 2).filter fun entry => entry.1.isHash || entry.1.isRange).map Prod.snd

/-- `DeriveIndexSchema(index_info)`; `nullptr` for an index with a descending column. -/
def deriveIndexSchema (index : IndexInfo) : Option Schema := do
  let fields ← index.columns.mapM IndexColumn.toSchemaField?
  pure { name := index.tableId, version := index.schemaVersion.toNat,
         fields := defaultPartitionKeyFields ++ fields,
         partitionKeyFields := [0, 1] ++ indexKeyFieldIndexes index.columns }

def createIndexSchema (skv : CollectionSkv) (coll : SkvCollection) :
    Option Schema → Except Status SkvCollection
  | none => throw { code := .invalidArgument, message := "Unsupported feature in secondary index" }
  | some indexSchema => pure (skv.createSchema coll indexSchema)

def createTableSKVSchema (skv : CollectionSkv) (coll : SkvCollection) (table : TableInfo) :
    Except Status SkvCollection :=
  match skv.getSchema coll table.tableId table.schema.version.toNat with
  | .ok _ => pure coll
  | .error status =>
      if status.code != 404 then throw (K2Adapter.k2StatusToK2PgStatus status)
      else
        (table.indexMap.map fun entry => deriveIndexSchema entry.2).foldlM (createIndexSchema skv)
          (skv.createSchema coll (deriveSKVSchemaFromTableInfo table))

def createOrUpdateTable (skv : CollectionSkv) (coll : SkvCollection) (table : TableInfo) :
    Except Status SkvCollection := do
  let metaStore ← persistTableMeta skv.metaSkv coll.metaStore table
  let coll := { coll with metaStore }
  if CatalogConsts.isOnPhysicalCollection table.databaseId table.isShared then
    createTableSKVSchema skv coll table
  else pure coll

def buildRangeRecord (collectionName : String) (schema : Schema) (tableOid indexOid : UInt32) :
    SKVRecord :=
  ((SKVRecord.empty collectionName schema).serializeNext (oidField tableOid)).serializeNext
    (oidField indexOid)

/-- `CopySKVTable`: both schemas looked up, then each record of the source schema in the range of
the table and index oids upserted into the target under the target schema.  The count of records
is only logged. -/
def copySKVTable (skv : CollectionSkv) (target : SkvCollection)
    (targetCollName targetSchemaName : String) (targetVersion : UInt32) (source : SkvCollection)
    (sourceCollName sourceSchemaName : String) (sourceVersion : UInt32)
    (sourceTableOid sourceIndexOid : UInt32) : Except Status SkvCollection := do
  let targetSchema ← (skv.getSchema target targetSchemaName targetVersion.toNat).mapError
    K2Adapter.k2StatusToK2PgStatus
  let sourceSchema ← (skv.getSchema source sourceSchemaName sourceVersion.toNat).mapError
    K2Adapter.k2StatusToK2PgStatus
  let range := buildRangeRecord sourceCollName sourceSchema sourceTableOid sourceIndexOid
  pure ((skv.scanRead source sourceSchema.name range range).foldl (fun target record =>
    skv.upsertRecord target (record.cloneToOtherSchema targetCollName targetSchema)) target)

def indexNameMap (indexMap : List (String × IndexInfo)) : List (String × IndexInfo) :=
  indexMap.foldl (fun map entry => (entry.2.tableName, entry.2) :: map) []

def copyIndex (skv : CollectionSkv) (targetCollName : String) (source : SkvCollection) (sourceCollName : String)
    (sourceTableOid : UInt32) (nameMap : List (String × IndexInfo)) (copied : Nat × SkvCollection)
    (entry : String × IndexInfo) : Except Status (Nat × SkvCollection) :=
  match nameMap.lookup entry.2.tableName with
  | none => throw { code := .notFound, message := "Cannot find target index " ++ entry.2.tableName }
  | some targetIndex => do
      let target ← copySKVTable skv copied.2 targetCollName entry.1 entry.2.schemaVersion source
        sourceCollName targetIndex.tableId targetIndex.schemaVersion sourceTableOid targetIndex.tableOid
      pure (copied.1 + 1, target)

def copyIndexes (skv : CollectionSkv) (target : SkvCollection) (targetCollName : String)
    (source : SkvCollection)
    (sourceCollName : String) (sourceTableOid : UInt32) (nameMap : List (String × IndexInfo))
    (indexMap : List (String × IndexInfo)) : Except Status (Nat × SkvCollection) :=
  indexMap.foldlM (copyIndex skv targetCollName source sourceCollName sourceTableOid nameMap) (0, target)

structure CopyTableResult where
  tableInfo : TableInfo
  numIndex : Nat
  target : SkvCollection

/-- `CopyTable`: the source table read back, cloned under the target's names and the uuid of its
oid in the target, created there, and then, unless the table is shared, its records and those of
its indexes copied. -/
def copyTable (skv : CollectionSkv) (target : SkvCollection)
    (targetCollName targetDatabaseName : String) (targetDatabaseOid : UInt32) (source : SkvCollection)
    (sourceCollName sourceDatabaseName sourceTableId : String) : Except Status CopyTableResult := do
  let sourceTable ← getTable skv.metaSkv source.metaStore sourceCollName sourceDatabaseName
    sourceTableId
  let targetTableUuid := PgObjectId.getTableUuid targetDatabaseOid sourceTable.tableOid
  let targetTable := sourceTable.clone targetCollName targetDatabaseName targetTableUuid
    sourceTable.tableName
  let target ← createOrUpdateTable skv target targetTable
  if sourceTable.isShared then
    -- the records of a shared table stay in the shared collection
    pure { tableInfo := targetTable, numIndex := 0, target }
  else
    let target ← copySKVTable skv target targetCollName targetTable.tableId targetTable.schema.version
      source sourceCollName sourceTableId sourceTable.schema.version sourceTable.tableOid 0
    let (numIndex, target) ← copyIndexes skv target targetCollName source sourceCollName
      sourceTable.tableOid (indexNameMap targetTable.indexMap) sourceTable.indexMap
    pure { tableInfo := targetTable, numIndex, target }

def readTableIdOfMeta (record : MetaRecord) : MetaReader (String × Bool) := do
  let _ ← record.deserializeInt .INT64T
  let _ ← record.deserializeInt .INT64T
  let tableId ← optionalValue (← record.deserializeString)
  let _ ← record.deserializeString
  let _ ← record.deserializeInt .INT64T
  let _ ← record.deserializeString
  let isSysTable ← optionalValue (← record.deserializeBool)
  pure (tableId, isSysTable)

/-- `ListTableIds`: the ids of the table meta records whose `IsIndex` is false, in key order. -/
def listTableIds (skv : MetaSkv) (store : MetaStore) (isSysTableIncluded : Bool) :
    Except Status (List String) :=
  let records := skv.scan store skvSchemaTableMeta.name
    [some (.int64 CatalogConsts.oid_table_meta), some (.int64 0)]
    fun record => record.fieldData[8]? == some (some (.bool false))
  (records.foldlM (fun tableIds record => do
    let (tableId, isSysTable) ← (readTableIdOfMeta record).run' 0
    pure (if isSysTableIncluded || !isSysTable then tableIds ++ [tableId] else tableIds)) []).mapError
    runtimeError

def copyDatabaseTables (skv : CollectionSkv) (target : SkvCollection)
    (targetDatabase : DatabaseInfo) (source : SkvCollection) (sourceDatabase : DatabaseInfo) :
    Except Status (Nat × SkvCollection) := do
  let tableIds ← listTableIds skv.metaSkv source.metaStore true
  tableIds.foldlM (fun (numIndex, target) tableId => do
    let copied ← copyTable skv target targetDatabase.databaseId targetDatabase.databaseName
      targetDatabase.databaseOid source sourceDatabase.databaseId sourceDatabase.databaseName tableId
    pure (numIndex + copied.numIndex, copied.target)) (0, target)

end TableInfoHandler

namespace CollectionSkv

variable (skv : CollectionSkv)

theorem getSchema_ok {coll : SkvCollection} {name : String} {version : Nat}
    (has : coll.HasSchema name version) :
    ∃ schema, skv.getSchema coll name version = .ok schema ∧ schema.name = name := by
  cases found : coll.findSchema name version with
  | none =>
      obtain ⟨schema, member, named, versioned⟩ := has
      have missed := List.find?_eq_none.mp found schema member
      simp [named, versioned] at missed
  | some schema =>
      have matched := List.find?_some found
      simp only [Bool.and_eq_true, beq_iff_eq] at matched
      exact ⟨schema, skv.getSchema_found _ _ _ _ found, matched.1⟩

theorem getSchema_absent {coll : SkvCollection} {name : String} (version : Nat)
    (absent : ∀ schema ∈ coll.schemas, schema.name ≠ name) :
    skv.getSchema coll name version = .error { code := 404 } := by
  apply skv.getSchema_missing
  rw [SkvCollection.findSchema, List.find?_eq_none]
  intro schema member
  simp [absent schema member]

theorem foldl_upsertRecord (f : SKVRecord → SKVRecord) :
    ∀ (records : List SKVRecord) (coll : SkvCollection),
      ∃ written, records.foldl (fun coll record => skv.upsertRecord coll (f record)) coll =
        { coll with records := written }
  | [], coll => ⟨coll.records, rfl⟩
  | record :: rest, coll => by
      obtain ⟨written, folded⟩ := foldl_upsertRecord f rest (skv.upsertRecord coll (f record))
      refine ⟨written, ?_⟩
      rw [List.foldl_cons, folded, skv.upsertRecord_replaces]
      rfl

end CollectionSkv

namespace TableInfoHandler

section Copy

variable {skv : CollectionSkv} {target target' source : SkvCollection} {targetCollName targetSchemaName sourceCollName
  sourceSchemaName : String} {targetVersion sourceVersion sourceTableOid sourceIndexOid : UInt32}

theorem copySKVTable_records
    (copied : copySKVTable skv target targetCollName targetSchemaName targetVersion source sourceCollName
      sourceSchemaName sourceVersion sourceTableOid sourceIndexOid = .ok target') :
    ∃ written, target' = { target with records := written } := by
  unfold copySKVTable at copied
  obtain ⟨targetSchema, -, copied⟩ := Except.bind_eq_ok copied
  obtain ⟨sourceSchema, -, copied⟩ := Except.bind_eq_ok copied
  simp only [pure, Except.pure, Except.ok.injEq] at copied
  subst copied
  exact skv.foldl_upsertRecord _ _ target

theorem copySKVTable_ok (targetHas : target.HasSchema targetSchemaName targetVersion.toNat)
    (sourceHas : source.HasSchema sourceSchemaName sourceVersion.toNat) :
    ∃ target', copySKVTable skv target targetCollName targetSchemaName targetVersion source sourceCollName
      sourceSchemaName sourceVersion sourceTableOid sourceIndexOid = .ok target' := by
  obtain ⟨targetSchema, targetFound, -⟩ := skv.getSchema_ok targetHas
  obtain ⟨sourceSchema, sourceFound, -⟩ := skv.getSchema_ok sourceHas
  unfold copySKVTable
  simp only [targetFound, sourceFound, Except.mapError, Except.ok_bind]
  exact ⟨_, rfl⟩

variable {nameMap : List (String × IndexInfo)}

theorem copyIndex_records {copied next : Nat × SkvCollection} {entry : String × IndexInfo}
    (ran : copyIndex skv targetCollName source sourceCollName sourceTableOid nameMap copied entry =
      .ok next) :
    ∃ written, next.2 = { copied.2 with records := written } := by
  unfold copyIndex at ran
  split at ran
  · cases ran
  · obtain ⟨target, copiedTable, made⟩ := Except.bind_eq_ok ran
    simp only [pure, Except.pure, Except.ok.injEq] at made
    subst made
    exact copySKVTable_records copiedTable

theorem foldlM_copyIndex_records :
    ∀ (entries : List (String × IndexInfo)) (copied result : Nat × SkvCollection),
      entries.foldlM (copyIndex skv targetCollName source sourceCollName sourceTableOid nameMap) copied =
        .ok result →
      ∃ written, result.2 = { copied.2 with records := written }
  | [], copied, result, ran => by
      simp only [List.foldlM_nil, pure, Except.pure, Except.ok.injEq] at ran
      subst ran
      exact ⟨copied.2.records, rfl⟩
  | entry :: rest, copied, result, ran => by
      rw [List.foldlM_cons] at ran
      obtain ⟨next, step, restRan⟩ := Except.bind_eq_ok ran
      obtain ⟨written, stepped⟩ := copyIndex_records step
      obtain ⟨written', folded⟩ := foldlM_copyIndex_records rest next result restRan
      exact ⟨written', by rw [folded, stepped]⟩

theorem copyIndex_ok {copied : Nat × SkvCollection} {entry : String × IndexInfo}
    {targetIndex : IndexInfo} (found : nameMap.lookup entry.2.tableName = some targetIndex)
    (targetHas : copied.2.HasSchema entry.1 entry.2.schemaVersion.toNat)
    (sourceHas : source.HasSchema targetIndex.tableId targetIndex.schemaVersion.toNat) :
    ∃ next, copyIndex skv targetCollName source sourceCollName sourceTableOid nameMap copied entry =
      .ok next := by
  obtain ⟨target', copiedTable⟩ : ∃ target', copySKVTable skv copied.2 targetCollName entry.1
      entry.2.schemaVersion source sourceCollName targetIndex.tableId targetIndex.schemaVersion
      sourceTableOid targetIndex.tableOid = .ok target' := copySKVTable_ok targetHas sourceHas
  unfold copyIndex
  simp only [found, copiedTable, Except.ok_bind]
  exact ⟨_, rfl⟩

theorem foldlM_copyIndex_ok :
    ∀ (entries : List (String × IndexInfo)) (copied : Nat × SkvCollection),
      (∀ entry ∈ entries, ∃ targetIndex, nameMap.lookup entry.2.tableName = some targetIndex ∧
        copied.2.HasSchema entry.1 entry.2.schemaVersion.toNat ∧
        source.HasSchema targetIndex.tableId targetIndex.schemaVersion.toNat) →
      ∃ result, entries.foldlM (copyIndex skv targetCollName source sourceCollName sourceTableOid nameMap)
        copied = .ok result
  | [], copied, _ => ⟨copied, rfl⟩
  | entry :: rest, copied, found => by
      obtain ⟨targetIndex, named, targetHas, sourceHas⟩ := found entry List.mem_cons_self
      obtain ⟨next, step⟩ := copyIndex_ok named targetHas sourceHas
      obtain ⟨written, stepped⟩ := copyIndex_records step
      have restFound : ∀ other ∈ rest, ∃ targetIndex, nameMap.lookup other.2.tableName = some targetIndex ∧
          next.2.HasSchema other.1 other.2.schemaVersion.toNat ∧
          source.HasSchema targetIndex.tableId targetIndex.schemaVersion.toNat := by
        intro other member
        obtain ⟨otherIndex, otherNamed, otherHas, otherSource⟩ :=
          found other (List.mem_cons_of_mem _ member)
        rw [stepped]
        exact ⟨otherIndex, otherNamed, otherHas, otherSource⟩
      obtain ⟨result, folded⟩ := foldlM_copyIndex_ok rest next restFound
      exact ⟨result, by rw [List.foldlM_cons, step, Except.ok_bind, folded]⟩

theorem foldlM_createIndexSchema_cases :
    ∀ (indexSchemas : List (Option Schema)) (coll coll' : SkvCollection),
      indexSchemas.foldlM (createIndexSchema skv) coll = .ok coll' →
      ∃ added, coll' = { coll with schemas := coll.schemas ++ added }
  | [], coll, coll', ran => by
      simp only [List.foldlM_nil, pure, Except.pure, Except.ok.injEq] at ran
      exact ⟨[], by rw [← ran, List.append_nil]⟩
  | indexSchema :: rest, coll, coll', ran => by
      rw [List.foldlM_cons] at ran
      obtain ⟨next, step, restRan⟩ := Except.bind_eq_ok ran
      cases indexSchema with
      | none => cases step
      | some indexSchema =>
          simp only [createIndexSchema, pure, Except.pure, Except.ok.injEq] at step
          subst step
          obtain ⟨added, folded⟩ := foldlM_createIndexSchema_cases rest _ coll' restRan
          exact ⟨indexSchema :: added, by rw [folded, skv.createSchema_appends]; simp⟩

theorem foldlM_createIndexSchema_some :
    ∀ (indexSchemas : List Schema) (coll : SkvCollection),
      (indexSchemas.map some).foldlM (createIndexSchema skv) coll =
        .ok { coll with schemas := coll.schemas ++ indexSchemas }
  | [], coll => by
      simp only [List.map_nil, List.foldlM_nil, List.append_nil]
      rfl
  | indexSchema :: rest, coll => by
      rw [List.map_cons, List.foldlM_cons]
      simp only [createIndexSchema, pure, Except.pure, Except.ok_bind]
      rw [skv.createSchema_appends, foldlM_createIndexSchema_some rest]
      simp

theorem createTableSKVSchema_cases {coll coll' : SkvCollection} {table : TableInfo}
    (created : createTableSKVSchema skv coll table = .ok coll') :
    ∃ added, coll' = { coll with schemas := coll.schemas ++ added } := by
  unfold createTableSKVSchema at created
  split at created
  · simp only [pure, Except.pure, Except.ok.injEq] at created
    exact ⟨[], by rw [← created, List.append_nil]⟩
  · split at created
    · cases created
    · obtain ⟨added, folded⟩ := foldlM_createIndexSchema_cases _ _ coll' created
      exact ⟨deriveSKVSchemaFromTableInfo table :: added,
        by rw [folded, skv.createSchema_appends]; simp⟩

theorem createTableSKVSchema_of_absent {coll : SkvCollection} {table : TableInfo}
    {indexSchemas : List Schema} (absent : ∀ schema ∈ coll.schemas, schema.name ≠ table.tableId)
    (derived : table.indexMap.map (fun entry => deriveIndexSchema entry.2) = indexSchemas.map some) :
    createTableSKVSchema skv coll table =
      .ok { coll with schemas := coll.schemas ++ deriveSKVSchemaFromTableInfo table :: indexSchemas } := by
  unfold createTableSKVSchema
  rw [skv.getSchema_absent _ absent]
  simp only [bne_self_eq_false, Bool.false_eq_true, if_false]
  rw [derived, skv.createSchema_appends, foldlM_createIndexSchema_some]
  simp

theorem createOrUpdateTable_cases {coll coll' : SkvCollection} {table : TableInfo}
    (created : createOrUpdateTable skv coll table = .ok coll') :
    ∃ added, coll' = { coll with metaStore := coll.metaStore.upsertAll (persistedRecords table),
                                 schemas := coll.schemas ++ added } := by
  unfold createOrUpdateTable at created
  simp only [persistTableMeta_eq, Except.ok_bind, CatalogConsts.isOnPhysicalCollection_eq_true,
    if_true] at created
  exact createTableSKVSchema_cases created

theorem createOrUpdateTable_of_absent {coll : SkvCollection} {table : TableInfo}
    {indexSchemas : List Schema} (absent : ∀ schema ∈ coll.schemas, schema.name ≠ table.tableId)
    (derived : table.indexMap.map (fun entry => deriveIndexSchema entry.2) = indexSchemas.map some) :
    createOrUpdateTable skv coll table =
      .ok { coll with metaStore := coll.metaStore.upsertAll (persistedRecords table),
                      schemas := coll.schemas ++ deriveSKVSchemaFromTableInfo table :: indexSchemas } := by
  unfold createOrUpdateTable
  simp only [persistTableMeta_eq, Except.ok_bind, CatalogConsts.isOnPhysicalCollection_eq_true,
    if_true]
  exact createTableSKVSchema_of_absent absent derived

theorem copyTable_cases {target source : SkvCollection} {targetCollName targetDatabaseName
    sourceCollName sourceDatabaseName sourceTableId : String} {targetDatabaseOid : UInt32}
    {copied : CopyTableResult}
    (ok : copyTable skv target targetCollName targetDatabaseName targetDatabaseOid source
      sourceCollName sourceDatabaseName sourceTableId = .ok copied) :
    ∃ sourceTable,
      getTable skv.metaSkv source.metaStore sourceCollName sourceDatabaseName sourceTableId =
        .ok sourceTable ∧
      copied.tableInfo = sourceTable.clone targetCollName targetDatabaseName
        (PgObjectId.getTableUuid targetDatabaseOid sourceTable.tableOid) sourceTable.tableName ∧
      copied.target.metaStore = target.metaStore.upsertAll (persistedRecords copied.tableInfo) := by
  unfold copyTable at ok
  obtain ⟨sourceTable, read, ok⟩ := Except.bind_eq_ok ok
  obtain ⟨created, createdRan, ok⟩ := Except.bind_eq_ok ok
  obtain ⟨added, createdEq⟩ := createOrUpdateTable_cases createdRan
  refine ⟨sourceTable, read, ?_⟩
  split at ok
  · -- a shared table: nothing more is written
    simp only [pure, Except.pure, Except.ok.injEq] at ok
    subst ok
    exact ⟨rfl, by rw [createdEq]⟩
  · -- the records of the table and its indexes: records only
    obtain ⟨based, basedRan, ok⟩ := Except.bind_eq_ok ok
    obtain ⟨indexed, indexedRan, ok⟩ := Except.bind_eq_ok ok
    obtain ⟨written, basedEq⟩ := copySKVTable_records basedRan
    unfold copyIndexes at indexedRan
    obtain ⟨written', indexedEq⟩ := foldlM_copyIndex_records _ _ _ indexedRan
    rcases indexed with ⟨numIndex, indexedTarget⟩
    simp only [pure, Except.pure, Except.ok.injEq] at ok indexedEq
    subst ok
    refine ⟨rfl, ?_⟩
    rw [indexedEq, basedEq, createdEq]

end Copy

end TableInfoHandler

theorem MetaStore.FreshFor.mono {store : MetaStore} {tableId : String} {indexIds others : List String}
    (fresh : store.FreshFor tableId indexIds) (sub : ∀ indexId ∈ others, indexId ∈ indexIds) :
    store.FreshFor tableId others :=
  ⟨fresh.noIndexOf, fresh.noColumnOf,
    fun record member indexId named => fresh.noIndexColumnOf record member indexId (sub indexId named)⟩

namespace CatalogTable

variable {table : TableInfo} (valid : CatalogTable table)
include valid

theorem withIndexes {entries : List (String × IndexInfo)} (reordered : entries.Perm table.indexMap) :
    CatalogTable { table with indexMap := entries } where
  columnIds := valid.columnIds
  keysFirst := valid.keysFirst
  keysNotNull := valid.keysNotNull
  version := valid.version
  indexIds := ((reordered.map Prod.fst).cons table.tableId).nodup_iff.mpr valid.indexIds
  indexKeys := fun entry member => valid.indexKeys entry (reordered.mem_iff.mp member)
  indexBase := fun entry member => valid.indexBase entry (reordered.mem_iff.mp member)
  indexColumnIds := fun entry member => valid.indexColumnIds entry (reordered.mem_iff.mp member)

theorem clone (databaseId databaseName tableUuid tableName : String) :
    CatalogTable (table.clone databaseId databaseName tableUuid tableName) := by
  rw [TableInfo.clone_eq valid.indexIds_nodup]
  exact ⟨valid.columnIds, valid.keysFirst, valid.keysNotNull, rfl, valid.indexIds,
    valid.indexKeys, valid.indexBase, valid.indexColumnIds⟩

end CatalogTable

namespace TableInfoHandler

theorem getTable_persisted_clone (skv : MetaSkv) {table : TableInfo} (valid : CatalogTable table)
    {store : MetaStore} (fresh : store.FreshFor table.tableId (table.indexMap.map Prod.fst))
    (databaseId databaseName tableUuid tableName : String) :
    ∃ read, getTable skv (store.upsertAll (persistedRecords
        (table.clone databaseId databaseName tableUuid tableName))) databaseId databaseName
        table.tableId = .ok read ∧
      read.tableUuid = tableUuid ∧ read.isShared = false ∧ read.indexMap.Perm table.indexMap := by
  have cloned := TableInfo.clone_eq valid.indexIds_nodup databaseId databaseName tableUuid tableName
  have clonedFresh : store.FreshFor (table.clone databaseId databaseName tableUuid tableName).tableId
      ((table.clone databaseId databaseName tableUuid tableName).indexMap.map Prod.fst) := by
    rw [cloned]
    exact fresh
  obtain ⟨persisted, read, persistedEq, readEq, reordered, sameClone⟩ :=
    getTable_persistTableMeta skv (valid.clone databaseId databaseName tableUuid tableName) clonedFresh
  rw [persistTableMeta_eq, Except.ok.injEq] at persistedEq
  rw [← persistedEq] at readEq
  have fields := congrArg (fun table : TableInfo => (table.tableUuid, table.isShared)) sameClone
  rw [cloned] at readEq reordered fields ⊢
  simp only [Prod.mk.injEq] at fields
  exact ⟨read, readEq, fields.1, fields.2, reordered⟩

theorem getTable_created_source {sourceId : String} {sourceOid : UInt32} {table : TableInfo}
    (created : CatalogCreated sourceId sourceOid table) {skv : MetaSkv} {base store : MetaStore}
    (fresh : base.FreshFor table.tableId (table.indexMap.map Prod.fst))
    (persisted : persistTableMeta skv base table = .ok store) :
    ∃ sourceTable,
      getTable skv store table.databaseId table.databaseName table.tableId = .ok sourceTable ∧
      CatalogTable sourceTable ∧ sourceTable = { table with indexMap := sourceTable.indexMap } ∧
      sourceTable.indexMap.Perm table.indexMap := by
  have valid := created.catalogTable
  obtain ⟨stored, sourceTable, storedEq, readSource, reordered, sameTable⟩ :=
    getTable_persistTableMeta skv valid fresh
  rw [persisted, Except.ok.injEq] at storedEq
  rw [← storedEq] at readSource
  have shape : sourceTable = { table with indexMap := sourceTable.indexMap } := by
    rw [← sameTable]
  have sourceValid : CatalogTable sourceTable := by
    rw [shape]
    exact valid.withIndexes reordered
  exact ⟨sourceTable, readSource, sourceValid, shape, reordered⟩

theorem List.map_eq_map_some_filterMap {α β : Type} (f : α → Option β) :
    ∀ (l : List α), (∀ a ∈ l, (f a).isSome) → l.map f = (l.filterMap f).map some
  | [], _ => rfl
  | a :: rest, allSome => by
      obtain ⟨b, found⟩ := Option.isSome_iff_exists.mp (allSome a List.mem_cons_self)
      rw [List.map_cons, List.filterMap_cons, found,
        List.map_eq_map_some_filterMap f rest fun other member =>
          allSome other (List.mem_cons_of_mem _ member)]
      rfl

theorem deriveIndexSchema_some {index : IndexInfo} {schema : Schema}
    (derived : deriveIndexSchema index = some schema) :
    schema.name = index.tableId ∧ schema.version = index.schemaVersion.toNat := by
  unfold deriveIndexSchema at derived
  cases fields : index.columns.mapM IndexColumn.toSchemaField? with
  | none =>
      rw [fields] at derived
      cases derived
  | some fields =>
      rw [fields] at derived
      cases derived
      exact ⟨rfl, rfl⟩

theorem indexNameMap_lookup {indexMap : List (String × IndexInfo)} {entry : String × IndexInfo}
    (member : entry ∈ indexMap) :
    ∃ targetIndex, (indexNameMap indexMap).lookup entry.2.tableName = some targetIndex ∧
      ∃ other ∈ indexMap, other.2 = targetIndex := by
  have listed : ∀ (entries acc : List (String × IndexInfo)),
      entries.foldl (fun map entry => (entry.2.tableName, entry.2) :: map) acc =
        (entries.map fun entry => (entry.2.tableName, entry.2)).reverse ++ acc := by
    intro entries
    induction entries with
    | nil => intro acc; rfl
    | cons head rest ih =>
        intro acc
        simp [ih]
  have named : indexNameMap indexMap =
      (indexMap.map fun entry => (entry.2.tableName, entry.2)).reverse := by
    rw [indexNameMap, listed, List.append_nil]
  have present : ((indexNameMap indexMap).lookup entry.2.tableName).isSome := by
    rw [List.lookup_isSome_iff]
    refine ⟨(entry.2.tableName, entry.2), ?_, by simp⟩
    rw [named, List.mem_reverse]
    exact List.mem_map_of_mem member
  obtain ⟨targetIndex, found⟩ := Option.isSome_iff_exists.mp present
  obtain ⟨front, back, split, -⟩ := List.lookup_eq_some_iff.mp found
  have inMap : (entry.2.tableName, targetIndex) ∈ indexNameMap indexMap := by
    rw [split]
    simp
  rw [named, List.mem_reverse, List.mem_map] at inMap
  obtain ⟨other, otherMember, same⟩ := inMap
  exact ⟨targetIndex, found, other, otherMember, (Prod.mk.inj same).2⟩

theorem copyTable_ok_of_created (skv : CollectionSkv) {sourceId : String} {sourceOid : UInt32}
    {table : TableInfo} (created : CatalogCreated sourceId sourceOid table) {base : MetaStore}
    (fresh : base.FreshFor table.tableId (table.indexMap.map Prod.fst)) {source target : SkvCollection}
    (persisted : persistTableMeta skv.metaSkv base table = .ok source.metaStore)
    (absent : ∀ schema ∈ target.schemas, schema.name ≠ table.tableId)
    (derived : ∀ entry ∈ table.indexMap, (deriveIndexSchema entry.2).isSome)
    (tableSchema : source.HasSchema table.tableId table.schema.version.toNat)
    (indexSchemas : ∀ entry ∈ table.indexMap,
      source.HasSchema entry.2.tableId entry.2.schemaVersion.toNat)
    (targetId targetName : String) (targetOid : UInt32) :
    ∃ copied, copyTable skv target targetId targetName targetOid source table.databaseId
      table.databaseName table.tableId = .ok copied := by
  obtain ⟨sourceTable, readSource, sourceValid, shape, reordered⟩ :=
    getTable_created_source created fresh persisted
  unfold copyTable
  simp only [readSource, Except.ok_bind]
  set targetTable := sourceTable.clone targetId targetName
    (PgObjectId.getTableUuid targetOid sourceTable.tableOid) sourceTable.tableName with targetTableEq
  have cloned : targetTable.indexMap = sourceTable.indexMap := by
    rw [targetTableEq, TableInfo.clone_eq sourceValid.indexIds_nodup]
  have inTable : ∀ entry ∈ targetTable.indexMap, entry ∈ table.indexMap := by
    intro entry member
    rw [cloned] at member
    exact reordered.mem_iff.mp member
  have absentClone : ∀ schema ∈ target.schemas, schema.name ≠ targetTable.tableId := by
    rw [targetTableEq, TableInfo.clone_eq sourceValid.indexIds_nodup, shape]
    exact absent
  obtain ⟨created, createdRan, createdSchemas⟩ : ∃ created,
      createOrUpdateTable skv target targetTable = .ok created ∧
        created.schemas = target.schemas ++ deriveSKVSchemaFromTableInfo targetTable ::
          targetTable.indexMap.filterMap fun entry => deriveIndexSchema entry.2 :=
    ⟨_, createOrUpdateTable_of_absent absentClone
      (List.map_eq_map_some_filterMap _ _ fun entry member => derived entry (inTable entry member)),
      rfl⟩
  rw [createdRan, Except.ok_bind]
  split
  · exact ⟨_, rfl⟩
  · obtain ⟨based, basedRan⟩ : ∃ based, copySKVTable skv created targetId targetTable.tableId
        targetTable.schema.version source table.databaseId table.tableId sourceTable.schema.version
        sourceTable.tableOid 0 = .ok based :=
      copySKVTable_ok ⟨deriveSKVSchemaFromTableInfo targetTable, by simp [createdSchemas], rfl, rfl⟩
        (by rw [shape]; exact tableSchema)
    obtain ⟨written, basedEq⟩ := copySKVTable_records basedRan
    obtain ⟨indexed, indexedRan⟩ : ∃ indexed, sourceTable.indexMap.foldlM
        (copyIndex skv targetId source table.databaseId sourceTable.tableOid
          (indexNameMap targetTable.indexMap)) (0, based) = .ok indexed := by
      refine foldlM_copyIndex_ok _ _ fun entry member => ?_
      have inClone : entry ∈ targetTable.indexMap := by
        rw [cloned]
        exact member
      obtain ⟨targetIndex, found, other, otherMember, rfl⟩ := indexNameMap_lookup inClone
      obtain ⟨indexSchema, derivedSchema⟩ :=
        Option.isSome_iff_exists.mp (derived entry (inTable entry inClone))
      obtain ⟨named, versioned⟩ := deriveIndexSchema_some derivedSchema
      refine ⟨other.2, found, ⟨indexSchema, ?_, ?_, versioned⟩,
        indexSchemas other (inTable other otherMember)⟩
      · simp only [basedEq, createdSchemas, List.mem_append, List.mem_cons, List.mem_filterMap]
        exact .inr (.inr ⟨entry, inClone, derivedSchema⟩)
      · rw [named, sourceValid.indexKeys entry member]
    rcases indexed with ⟨numIndex, indexedTarget⟩
    simp only [basedRan, Except.ok_bind, copyIndexes, indexedRan]
    exact ⟨_, rfl⟩

end TableInfoHandler

/-- `CopyTable` of a table the source's catalog created, into a target whose catalog has nothing of
it: when the copy succeeds, `GetTable` of the target's catalog gives a table with the uuid of its
oid in the target, not shared, and with the source's indexes, each still with the uuid of its oid
in the source. -/
theorem getTable_copyTable_index_uuids (skv : CollectionSkv) {sourceId : String}
    {sourceOid targetOid : UInt32} {table : TableInfo} (created : CatalogCreated sourceId sourceOid table)
    {base : MetaStore} (fresh : base.FreshFor table.tableId (table.indexMap.map Prod.fst))
    {source target : SkvCollection}
    (persisted : TableInfoHandler.persistTableMeta skv.metaSkv base table = .ok source.metaStore)
    (targetFresh : target.metaStore.FreshFor table.tableId (table.indexMap.map Prod.fst))
    (otherDatabase : sourceOid ≠ targetOid) {targetId targetName : String}
    {copied : TableInfoHandler.CopyTableResult}
    (ok : TableInfoHandler.copyTable skv target targetId targetName targetOid source table.databaseId
      table.databaseName table.tableId = .ok copied) :
    ∃ read,
      TableInfoHandler.getTable skv.metaSkv copied.target.metaStore targetId targetName table.tableId =
        .ok read ∧
      read.tableUuid = PgObjectId.getTableUuid targetOid table.tableOid ∧ read.isShared = false ∧
      read.indexMap.Perm table.indexMap ∧
      ∀ entry ∈ read.indexMap, entry.2.tableUuid = PgObjectId.getTableUuid sourceOid entry.2.tableOid ∧
        entry.2.tableUuid ≠ PgObjectId.getTableUuid targetOid entry.2.tableOid := by
  obtain ⟨sourceTable, readSource, sourceValid, shape, reordered⟩ :=
    TableInfoHandler.getTable_created_source created fresh persisted
  obtain ⟨read', fromSource, cloned, written⟩ := TableInfoHandler.copyTable_cases ok
  rw [readSource, Except.ok.injEq] at fromSource
  subst fromSource
  have sameOid : sourceTable.tableOid = table.tableOid := by rw [shape]
  have sameId : sourceTable.tableId = table.tableId := by
    unfold TableInfo.tableId
    rw [sameOid]
  have sourceFresh :
      target.metaStore.FreshFor sourceTable.tableId (sourceTable.indexMap.map Prod.fst) := by
    rw [sameId]
    refine targetFresh.mono fun indexId member => ?_
    obtain ⟨entry, inSource, rfl⟩ := List.mem_map.mp member
    exact List.mem_map_of_mem (reordered.mem_iff.mp inSource)
  obtain ⟨read, readTarget, uuid, notShared, readPerm⟩ :=
    TableInfoHandler.getTable_persisted_clone skv.metaSkv sourceValid sourceFresh targetId targetName
      (PgObjectId.getTableUuid targetOid sourceTable.tableOid) sourceTable.tableName
  have allPerm := readPerm.trans reordered
  refine ⟨read, ?_, by rw [uuid, sameOid], notShared, allPerm, ?_⟩
  · rw [written, cloned, ← sameId]
    exact readTarget
  · intro entry member
    obtain ⟨-, indexUuid⟩ := created.index_names entry (allPerm.mem_iff.mp member)
    refine ⟨indexUuid, fun same => ?_⟩
    rw [indexUuid] at same
    exact otherDatabase (PgObjectId.getTableUuid_databaseOid_injective same)

def keyValueSource : SkvCollection :=
  { metaStore := (⟨fun _ => []⟩ : MetaStore).upsertAll
      (TableInfoHandler.persistedRecords keyValueIndexedTable),
    schemas := TableInfoHandler.deriveSKVSchemaFromTableInfo keyValueIndexedTable ::
      (TableInfoHandler.deriveIndexSchema keyValueIndex).toList,
    records := fun _ => [] }

def keyValueTarget : SkvCollection :=
  { metaStore := ⟨fun _ => []⟩, schemas := [], records := fun _ => [] }

theorem getTable_copyTable_index_uuids_keyValue :
    ∃ copied, TableInfoHandler.copyTable CollectionSkv.reference keyValueTarget "d" "d" 16390
        keyValueSource "db" "db" keyValueIndexedTable.tableId = .ok copied ∧
      ∃ read, TableInfoHandler.getTable MetaSkv.reference copied.target.metaStore "d" "d"
          keyValueIndexedTable.tableId = .ok read ∧
        read.tableUuid = PgObjectId.getTableUuid 16390 keyValueIndexedTable.tableOid ∧
        read.isShared = false ∧ read.indexMap.Perm keyValueIndexedTable.indexMap ∧
        ∀ entry ∈ read.indexMap, entry.2.tableUuid = PgObjectId.getTableUuid 16384 entry.2.tableOid ∧
          entry.2.tableUuid ≠ PgObjectId.getTableUuid 16390 entry.2.tableOid := by
  have created := keyValueIndexedTable_created
  have fresh : MetaStore.FreshFor ⟨fun _ => []⟩ keyValueIndexedTable.tableId
      (keyValueIndexedTable.indexMap.map Prod.fst) :=
    ⟨(fun _ member => by cases member), (fun _ member => by cases member),
      (fun _ member => by cases member)⟩
  have persisted : TableInfoHandler.persistTableMeta CollectionSkv.reference.metaSkv ⟨fun _ => []⟩
      keyValueIndexedTable = .ok keyValueSource.metaStore :=
    TableInfoHandler.persistTableMeta_eq _ _ _
  obtain ⟨indexSchema, derivedSchema⟩ :
      ∃ indexSchema, TableInfoHandler.deriveIndexSchema keyValueIndex = some indexSchema :=
    ⟨_, rfl⟩
  have onlyIndex : ∀ entry ∈ keyValueIndexedTable.indexMap, entry = (keyValueIndex.tableId, keyValueIndex) :=
    fun _ member => List.mem_singleton.mp member
  have derived : ∀ entry ∈ keyValueIndexedTable.indexMap,
      (TableInfoHandler.deriveIndexSchema entry.2).isSome := by
    intro entry member
    rw [onlyIndex entry member, derivedSchema]
    rfl
  have indexSchemas : ∀ entry ∈ keyValueIndexedTable.indexMap,
      keyValueSource.HasSchema entry.2.tableId entry.2.schemaVersion.toNat := by
    intro entry member
    obtain ⟨named, versioned⟩ := TableInfoHandler.deriveIndexSchema_some derivedSchema
    rw [onlyIndex entry member]
    refine ⟨indexSchema, List.mem_cons_of_mem _ ?_, named, versioned⟩
    rw [derivedSchema]
    exact List.mem_singleton_self _
  obtain ⟨copied, ok⟩ : ∃ copied, TableInfoHandler.copyTable CollectionSkv.reference keyValueTarget
      "d" "d" 16390 keyValueSource keyValueIndexedTable.databaseId keyValueIndexedTable.databaseName
      keyValueIndexedTable.tableId = .ok copied :=
    TableInfoHandler.copyTable_ok_of_created CollectionSkv.reference created fresh persisted
      (fun _ member => by cases member) derived ⟨_, List.mem_cons_self, rfl, rfl⟩ indexSchemas
      "d" "d" 16390
  exact ⟨copied, ok,
    getTable_copyTable_index_uuids CollectionSkv.reference created fresh persisted fresh (by decide) ok⟩

end ChogoriSql
