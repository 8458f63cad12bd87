import ChogoriSql.Catalog.RoundTrip

/-! The tables the catalog creates have the shape `GetTable` reads back.  `CreateTable` of the
schema `CreateTableAddColumns` builds numbers the columns in position order, with the key columns
in front; each `CreateIndexTable` of an index schema `K2PgCreateIndex` builds adds the index under
an id of its own, based on the table, with its column ids increasing. -/

namespace ChogoriSql

theorem SchemaBuilder.ofColumns_colIds_increasing (cols : List ColumnSchema) (numKeyColumns : Nat) :
    (SchemaBuilder.ofColumns cols numKeyColumns).colIds.Pairwise (· < ·) := by
  rw [SchemaBuilder.ofColumns_colIds, List.pairwise_map]
  exact List.pairwise_lt_range.imp Int.ofNat_lt.mpr

namespace CatalogTable

theorem newTableInfo {cols : List ColumnSchema} {numKeyColumns : Nat} {schema : TableSchema}
    (keysFirst : KeysFirst cols numKeyColumns)
    (built : (SchemaBuilder.ofColumns cols numKeyColumns).buildSchema = .ok schema)
    (databaseId databaseName : String) (databaseOid tableOid : UInt32) (tableName : String)
    (isSysCatalogTable isSharedTable : Bool) (copiedMaxColId : Int) :
    CatalogTable (SqlCatalogManager.newTableInfo databaseId databaseName databaseOid tableOid
      tableName schema isSysCatalogTable isSharedTable copiedMaxColId) := by
  have idsLength : ((List.range cols.length).map Int.ofNat).length = cols.length := by simp
  unfold SchemaBuilder.buildSchema at built
  rw [SchemaBuilder.ofColumns_cols, SchemaBuilder.ofColumns_colIds,
    SchemaBuilder.ofColumns_numKeyColumns, TableSchema.reset_of_keysFirst keysFirst idsLength] at built
  split at built
  · cases built
  · rename_i notNull
    cases built
    exact ⟨rfl, keysFirst, Bool.eq_false_iff.mpr notNull, rfl, List.nodup_singleton _,
      (fun _ member => by cases member), (fun _ member => by cases member),
      (fun _ member => by cases member)⟩

theorem addIndex {base : TableInfo} {index : IndexInfo} (valid : CatalogTable base)
    (absent : index.tableId ∉ base.indexMap.map Prod.fst) (notTable : index.tableId ≠ base.tableId)
    (based : index.baseTableId = base.tableId)
    (increasing : (index.columns.map IndexColumn.columnId).Pairwise (· < ·)) :
    CatalogTable { base with indexMap := base.indexMap ++ [(index.tableId, index)] } where
  columnIds := valid.columnIds
  keysFirst := valid.keysFirst
  keysNotNull := valid.keysNotNull
  version := valid.version
  indexIds := by
    have old := List.nodup_cons.mp valid.indexIds
    show (base.tableId :: (base.indexMap ++ [(index.tableId, index)]).map Prod.fst).Nodup
    rw [List.map_append, List.map_singleton, List.nodup_cons, List.nodup_append_comm,
      List.singleton_append, List.nodup_cons]
    refine ⟨?_, absent, old.2⟩
    simp only [List.mem_append, List.mem_singleton, not_or]
    exact ⟨old.1, Ne.symm notTable⟩
  indexKeys := by
    intro entry member
    rcases List.mem_append.mp member with old | new
    · exact valid.indexKeys entry old
    · rw [List.mem_singleton.mp new]
  indexBase := by
    intro entry member
    rcases List.mem_append.mp member with old | new
    · exact valid.indexBase entry old
    · rw [List.mem_singleton.mp new]
      exact based
  indexColumnIds := by
    intro entry member
    rcases List.mem_append.mp member with old | new
    · exact valid.indexColumnIds entry old
    · rw [List.mem_singleton.mp new]
      exact increasing

theorem createIndexTable {base next : TableInfo} {index : IndexInfo} {databaseId : String}
    {databaseOid : UInt32} {params : CreateIndexTableParams} (valid : CatalogTable base)
    (otherOid : params.tableOid ≠ base.tableOid)
    (increasing : params.indexSchema.columnIds.Pairwise (· < ·))
    (created : TableInfoHandler.createIndexTable databaseId databaseOid base params = .ok (index, next)) :
    CatalogTable next := by
  unfold TableInfoHandler.createIndexTable at created
  dsimp only at created
  split at created
  · split at created
    · cases created
      exact valid
    · cases created
  · rename_i absent
    split at created
    · cases created
    · rename_i built
      cases created
      obtain ⟨oid, based, ids⟩ := TableInfoHandler.buildIndexInfo_ok built
      have sameId : index.tableId = PgObjectId.getTableId params.tableOid := by
        rw [IndexInfo.tableId, oid]
      have notPresent : base.indexMap.lookup index.tableId = none := by
        rw [sameId]
        exact absent
      unfold TableInfo.addSecondaryIndex
      rw [notPresent]
      simp only [Option.isSome_none, Bool.false_eq_true, if_false]
      apply valid.addIndex
      · intro present
        obtain ⟨entry, member, keyed⟩ := List.mem_map.mp present
        have differs := List.lookup_eq_none_iff.mp notPresent entry member
        simp [keyed] at differs
      · intro same
        rw [sameId] at same
        exact otherOid (PgObjectId.getTableId_injective same)
      · exact based
      · rw [ids]
        exact increasing

end CatalogTable

/-- The tables the catalog creates: `CreateTable` of the schema `CreateTableAddColumns` builds,
then `CreateIndexTable` calls on it, each of the index schema `K2PgCreateIndex` builds, under an
oid other than the table's.  As in PostgreSQL's index descriptors, the attributes of an index have
distinct names, none of them a system column's, and an included attribute is not a hash column. -/
inductive CatalogCreated (databaseId : String) (databaseOid : UInt32) : TableInfo → Prop
  | createTable (keys others : List IndexAttr) (databaseName tableName : String) (tableOid : UInt32)
      (isSysCatalogTable isSharedTable : Bool) (copiedMaxColId : Int)
      {stmt : PgCreateTable} {schema : TableSchema} :
      createTableAddColumns keys others = .ok stmt →
      stmt.schemaBuilder.buildSchema = .ok schema →
      CatalogCreated databaseId databaseOid
        (SqlCatalogManager.newTableInfo databaseId databaseName databaseOid tableOid tableName schema
          isSysCatalogTable isSharedTable copiedMaxColId)
  | createIndexTable (isUnique : Bool) (keys includes : List IndexAttr) (indexName : String)
      (indexOid : UInt32) (isSharedTable isNotExist : Bool) {base next : TableInfo}
      {index : IndexInfo} {builder : SchemaBuilder} {indexSchema : TableSchema} :
      CatalogCreated databaseId databaseOid base →
      indexOid ≠ base.tableOid →
      ((keys ++ includes).map IndexAttr.name ++ ["k2pguniqueidxkeysuffix", "k2pgidxbasectid"]).Nodup →
      (∀ attr ∈ includes, attr.isHash = false) →
      k2PgCreateIndex isUnique keys.length (keys ++ includes) = .ok builder →
      builder.buildSchema = .ok indexSchema →
      TableInfoHandler.createIndexTable databaseId databaseOid base
        (SqlCatalogManager.createIndexTableParams indexName indexOid indexSchema isUnique
          isSharedTable isNotExist) = .ok (index, next) →
      CatalogCreated databaseId databaseOid next

theorem CatalogCreated.catalogTable {databaseId : String} {databaseOid : UInt32} {table : TableInfo}
    (created : CatalogCreated databaseId databaseOid table) : CatalogTable table := by
  induction created with
  | createTable keys others databaseName tableName tableOid isSys isShared maxColId added built =>
      obtain ⟨cols, numKeyColumns, filled, keysFirst⟩ := createTableAddColumns_ofColumns added
      rw [filled] at built
      exact CatalogTable.newTableInfo keysFirst built _ _ _ _ _ _ _ _
  | @createIndexTable isUnique keys includes indexName indexOid isShared isNotExist base next index
      builder indexSchema _ otherOid names notHash ranIndex built added valid =>
      have builderEq := k2PgCreateIndex_eq isUnique keys includes builder names notHash ranIndex
      have ids := TableSchema.reset_columnIds built
      rw [builderEq] at ids
      refine CatalogTable.createIndexTable valid otherOid ?_ added
      show indexSchema.copy.columnIds.Pairwise (· < ·)
      rw [TableSchema.copy, ids]
      exact SchemaBuilder.ofColumns_colIds_increasing _ _

theorem CatalogCreated.index_names {databaseId : String} {databaseOid : UInt32} {table : TableInfo}
    (created : CatalogCreated databaseId databaseOid table) :
    ∀ entry ∈ table.indexMap, entry.2.tableName = databaseId ∧
      entry.2.tableUuid = PgObjectId.getTableUuid databaseOid entry.2.tableOid := by
  induction created with
  | createTable =>
      intro entry member
      cases member
  | @createIndexTable isUnique keys includes indexName indexOid isShared isNotExist base next index
      builder indexSchema _ _ _ _ _ _ added named =>
      intro entry member
      rcases TableInfoHandler.createIndexTable_cases added with same | ⟨_, built, grown⟩
      · rw [same] at member
        exact named entry member
      · rw [grown] at member
        rcases TableInfo.mem_addSecondaryIndex member with old | new
        · exact named entry old
        · obtain ⟨name, uuid⟩ := TableInfoHandler.buildIndexInfo_ok_names built
          obtain ⟨oid, -, -⟩ := TableInfoHandler.buildIndexInfo_ok built
          rw [new]
          refine ⟨name, ?_⟩
          rw [uuid, oid]

/-- The catalog's tables survive a round trip through the meta store: `PersistTableMeta` of a
table the catalog created, into a store that had nothing of it, and `GetTable` of its id give the
table back, its indexes in the order the scan finds them. -/
theorem getTable_persistTableMeta_of_created (skv : MetaSkv) {databaseId : String}
    {databaseOid : UInt32} {table : TableInfo} (created : CatalogCreated databaseId databaseOid table)
    {store : MetaStore} (fresh : store.FreshFor table.tableId (table.indexMap.map Prod.fst)) :
    ∃ persisted read, TableInfoHandler.persistTableMeta skv store table = .ok persisted ∧
      TableInfoHandler.getTable skv persisted table.databaseId table.databaseName table.tableId =
        .ok read ∧
      read.indexMap.Perm table.indexMap ∧ { read with indexMap := table.indexMap } = table := by
  have valid := created.catalogTable
  exact TableInfoHandler.getTable_persistTableMeta skv valid fresh

def keyValueKeys : List IndexAttr :=
  [{ name := "k", attnum := 1, type := .K2SQL_DATA_TYPE_INT64, isHash := true }]

def keyValueOthers : List IndexAttr :=
  [{ name := "v", attnum := 2, type := .K2SQL_DATA_TYPE_STRING }]

def keyValueIndexKeys : List IndexAttr :=
  [{ name := "v", attnum := 1, type := .K2SQL_DATA_TYPE_STRING, isHash := true }]

def keyValueTableSchema : TableSchema :=
  { columns := [{ name := "k", type := .K2SQL_DATA_TYPE_INT64, isNullable := false, isKey := true,
                  order := 1 },
                { name := "v", type := .K2SQL_DATA_TYPE_STRING, isNullable := true, isKey := false,
                  order := 2 }],
    columnIds := [0, 1], numKeyColumns := 1 }

def keyValueTable : TableInfo :=
  SqlCatalogManager.newTableInfo "db" "db" 16384 16385 "t" keyValueTableSchema false false 1

def keyValueIndex : IndexInfo :=
  { tableName := "db", tableOid := 16386, tableUuid := PgObjectId.getTableUuid 16384 16386,
    baseTableId := keyValueTable.tableId, schemaVersion := 0, isUnique := false, isShared := false,
    columns := [{ columnId := 0, columnName := "v", type := .K2SQL_DATA_TYPE_STRING,
                  isNullable := false, isHash := false, isRange := true, order := 1,
                  sortingType := .kNotSpecified, baseColumnId := 1 },
                { columnId := 1, columnName := "k2pgidxbasectid", type := .K2SQL_DATA_TYPE_BINARY,
                  isNullable := false, isHash := false, isRange := true, order := kPgIdxBaseTupleId,
                  sortingType := .kNotSpecified, baseColumnId := -1 }],
    indexPermissions := .INDEX_PERM_READ_WRITE_AND_DELETE }

def keyValueIndexedTable : TableInfo :=
  { keyValueTable with indexMap := [(keyValueIndex.tableId, keyValueIndex)] }

theorem keyValueIndexedTable_created : CatalogCreated "db" 16384 keyValueIndexedTable := by
  have table : CatalogCreated "db" 16384 keyValueTable :=
    CatalogCreated.createTable keyValueKeys keyValueOthers "db" "t" 16385 false false 1 rfl rfl
  exact CatalogCreated.createIndexTable false keyValueIndexKeys [] "t_v_idx" 16386 false false table
    (by decide) (by decide) (by simp) rfl rfl rfl

theorem getTable_persistTableMeta_of_created_keyValue :
    CatalogCreated "db" 16384 keyValueIndexedTable ∧
      MetaStore.FreshFor ⟨fun _ => []⟩ keyValueIndexedTable.tableId
        (keyValueIndexedTable.indexMap.map Prod.fst) ∧
      ∃ persisted read,
        TableInfoHandler.persistTableMeta MetaSkv.reference ⟨fun _ => []⟩ keyValueIndexedTable =
          .ok persisted ∧
        TableInfoHandler.getTable MetaSkv.reference persisted keyValueIndexedTable.databaseId
          keyValueIndexedTable.databaseName keyValueIndexedTable.tableId = .ok read ∧
        read.indexMap.Perm keyValueIndexedTable.indexMap ∧
        { read with indexMap := keyValueIndexedTable.indexMap } = keyValueIndexedTable := by
  have indexed := keyValueIndexedTable_created
  have fresh : MetaStore.FreshFor ⟨fun _ => []⟩ keyValueIndexedTable.tableId
      (keyValueIndexedTable.indexMap.map Prod.fst) :=
    ⟨(fun _ member => by cases member), (fun _ member => by cases member),
      (fun _ member => by cases member)⟩
  exact ⟨indexed, fresh, getTable_persistTableMeta_of_created MetaSkv.reference indexed fresh⟩

end ChogoriSql
