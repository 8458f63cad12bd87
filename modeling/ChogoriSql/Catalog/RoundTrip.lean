import ChogoriSql.Catalog.TableMeta

/-! `GetTable` reads back what `PersistTableMeta` writes.  An upsert replaces the record of its
key, so after the writes the scans of a table's columns and indexes find exactly the records
written for it, when nothing in the store named the table or its indexes before; in key order
the column records come in position order, because the column ids number the columns.  The
tables the catalog creates, by `CreateTable` of a schema `CreateTableAddColumns` built and by
`CreateIndexTable` of index schemas `K2PgCreateIndex` built, all have that shape. -/

namespace ChogoriSql

namespace MetaStore

def upsertAll (store : MetaStore) (records : List MetaRecord) : MetaStore :=
  records.foldl put store

def ofSchema (name : String) (records : List MetaRecord) : List MetaRecord :=
  records.filter (·.schema.name == name)

theorem put_records (store : MetaStore) (record : MetaRecord) (name : String) :
    (store.put record).records name =
      if name = record.schema.name then
        (store.records name).filter (·.key != record.key) ++ [record]
      else store.records name := by
  by_cases same : name = record.schema.name
  · subst same
    simp [put]
  · simp [put, same]

theorem upsertAll_records (name : String) : ∀ (records : List MetaRecord) (store : MetaStore),
    ((ofSchema name records).map MetaRecord.key).Nodup →
      (upsertAll store records).records name =
        (store.records name).filter (fun old => old.key ∉ (ofSchema name records).map MetaRecord.key) ++
          ofSchema name records := by
  intro records
  induction records with
  | nil => intro store _; simp [upsertAll, ofSchema]
  | cons record rest ih =>
      intro store distinct
      have step : upsertAll store (record :: rest) = upsertAll (store.put record) rest := rfl
      by_cases same : record.schema.name = name
      · have ofCons : ofSchema name (record :: rest) = record :: ofSchema name rest := by
          simp [ofSchema, same]
        rw [ofCons, List.map_cons, List.nodup_cons] at distinct
        rw [step, ih _ distinct.2, put_records, if_pos same.symm, ofCons, List.filter_append,
          List.filter_filter]
        have kept : [record].filter (fun old => old.key ∉ (ofSchema name rest).map MetaRecord.key) =
            [record] := by
          apply List.filter_eq_self.mpr
          intro other member
          rw [List.mem_singleton.mp member]
          simpa using distinct.1
        rw [kept, List.append_assoc, List.singleton_append]
        congr 1
        apply List.filter_congr
        intro old _
        by_cases isNew : old.key = record.key <;>
          by_cases inRest : old.key ∈ (ofSchema name rest).map MetaRecord.key <;>
          simp [isNew, inRest]
      · have ofCons : ofSchema name (record :: rest) = ofSchema name rest := by
          simp [ofSchema, same]
        rw [ofCons] at distinct ⊢
        rw [step, ih _ distinct, put_records, if_neg (Ne.symm same)]

theorem select_upsertAll {store : MetaStore} {records : List MetaRecord} {name : String}
    {keyPrefix : List (Option MetaField)} {filter : MetaRecord → Bool}
    (distinct : ((ofSchema name records).map MetaRecord.key).Nodup)
    (unselected : ∀ old ∈ store.records name, filter old = false) :
    (upsertAll store records).select name keyPrefix filter =
      ((ofSchema name records).filter fun record =>
        keyPrefix.isPrefixOf record.fieldData && filter record).mergeSort MetaRecord.keyLe := by
  unfold select
  rw [upsertAll_records name records store distinct, List.filter_append]
  have none : ((store.records name).filter fun old =>
      old.key ∉ (ofSchema name records).map MetaRecord.key).filter
        (fun record => keyPrefix.isPrefixOf record.fieldData && filter record) = [] := by
    rw [List.filter_eq_nil_iff]
    intro old member
    have old_mem := (List.mem_filter.mp member).1
    simp [unselected old old_mem]
  rw [none, List.nil_append]

theorem find_upsertAll {store : MetaStore} {records : List MetaRecord} {recordKey record : MetaRecord}
    (distinct : ((ofSchema recordKey.schema.name records).map MetaRecord.key).Nodup)
    (found : (ofSchema recordKey.schema.name records).find? (·.key == recordKey.key) = some record) :
    (upsertAll store records).find recordKey = some record := by
  have written : recordKey.key ∈ (ofSchema recordKey.schema.name records).map MetaRecord.key := by
    have sameKey := List.find?_some found
    have member := List.mem_of_find?_eq_some found
    exact List.mem_map.mpr ⟨record, member, by simpa using sameKey⟩
  have oldMissing : ((store.records recordKey.schema.name).filter fun old =>
      old.key ∉ (ofSchema recordKey.schema.name records).map MetaRecord.key).find?
        (·.key == recordKey.key) = none := by
    rw [List.find?_eq_none]
    intro old member same
    have fresh := (List.mem_filter.mp member).2
    simp only [decide_eq_true_eq] at fresh
    simp only [beq_iff_eq] at same
    exact fresh (same ▸ written)
  unfold find
  rw [upsertAll_records _ records store distinct, List.find?_append, oldMissing, found]
  rfl

/-- The store holds no meta record that names the table or one of its indexes: no index record
with the table as its base, and no column record of the table or of an index. -/
structure FreshFor (store : MetaStore) (tableId : String) (indexIds : List String) : Prop where
  noIndexOf : ∀ record ∈ store.records skvSchemaTableMeta.name, record.stringField 10 ≠ some tableId
  noColumnOf : ∀ record ∈ store.records skvSchemaTablecolumnMeta.name,
    record.stringField 2 ≠ some tableId
  noIndexColumnOf : ∀ record ∈ store.records skvSchemaIndexcolumnMeta.name, ∀ indexId ∈ indexIds,
    record.stringField 2 ≠ some indexId

end MetaStore

theorem List.flatMap_of_key {α β κ : Type} [DecidableEq κ] (key : α → κ) (f : α → List β) :
    ∀ (l : List α) (a : α), (l.map key).Nodup → a ∈ l →
      l.flatMap (fun b => if key b = key a then f b else []) = f a := by
  intro l
  induction l with
  | nil => intro a _ member; cases member
  | cons b rest ih =>
      intro a distinct member
      rw [List.map_cons, List.nodup_cons] at distinct
      rw [List.flatMap_cons]
      rcases List.mem_cons.mp member with first | later
      · rw [first]
        have others : rest.flatMap (fun c => if key c = key b then f c else []) = [] := by
          rw [List.flatMap_eq_nil_iff]
          intro c inRest
          have differs : key c ≠ key b := fun same => distinct.1 (same ▸ List.mem_map_of_mem inRest)
          simp [differs]
        simp [others]
      · have differs : key b ≠ key a := fun same => distinct.1 (same ▸ List.mem_map_of_mem later)
        simp [differs, ih a distinct.2 later]

namespace TableInfoHandler

def indexRecords (table : TableInfo) (index : IndexInfo) : List MetaRecord :=
  indexRecord table index :: index.columns.map (indexColumnRecord index)

def persistedRecords (table : TableInfo) : List MetaRecord :=
  tableRecord table :: (table.schema.columns.zip table.schema.columnIds).map (tableColumnRecord table) ++
    table.indexMap.flatMap fun entry => indexRecords table entry.2

section Persist

variable (skv : MetaSkv)

theorem upsertRecords_eq (store : MetaStore) (records : List MetaRecord) :
    upsertRecords skv store records = .ok (store.upsertAll records) := by
  induction records generalizing store with
  | nil => rfl
  | cons record rest ih =>
      have accepted : upsertRecords skv store (record :: rest) =
          upsertRecords skv (store.put record) rest := by
        rw [upsertRecords, List.foldlM_cons, skv.upsert_accepted]
        rfl
      rw [accepted, ih]
      rfl

theorem persistIndexMeta_eq (store : MetaStore) (table : TableInfo) (index : IndexInfo) :
    persistIndexMeta skv store table index = .ok (store.upsertAll (indexRecords table index)) := by
  unfold persistIndexMeta
  simp only [deriveTableMetaRecordOfIndex_eq, deriveIndexColumnMetaRecords_eq, Except.mapError,
    upsertRecords_eq, Except.ok_bind]
  rfl

theorem foldlM_persistIndexMeta (table : TableInfo) :
    ∀ (entries : List (String × IndexInfo)) (store : MetaStore),
      entries.foldlM (fun store entry => persistIndexMeta skv store table entry.2) store =
        .ok (store.upsertAll (entries.flatMap fun entry => indexRecords table entry.2))
  | [], store => rfl
  | entry :: rest, store => by
      rw [List.foldlM_cons, persistIndexMeta_eq, Except.ok_bind, foldlM_persistIndexMeta table rest,
        List.flatMap_cons]
      simp [MetaStore.upsertAll, List.foldl_append]

theorem persistTableMeta_eq (store : MetaStore) (table : TableInfo) :
    persistTableMeta skv store table = .ok (store.upsertAll (persistedRecords table)) := by
  unfold persistTableMeta
  simp only [deriveTableMetaRecord_eq, deriveTableColumnMetaRecords_eq, Except.mapError,
    upsertRecords_eq, Except.ok_bind, foldlM_persistIndexMeta]
  simp [persistedRecords, MetaStore.upsertAll, List.foldl_append]

end Persist

@[simp] theorem tableRecord_schema (table : TableInfo) :
    (tableRecord table).schema = skvSchemaTableMeta := rfl

@[simp] theorem indexRecord_schema (table : TableInfo) (index : IndexInfo) :
    (indexRecord table index).schema = skvSchemaTableMeta := rfl

@[simp] theorem tableColumnRecord_schema (table : TableInfo) (entry : ColumnSchema × Int) :
    (tableColumnRecord table entry).schema = skvSchemaTablecolumnMeta := rfl

@[simp] theorem indexColumnRecord_schema (index : IndexInfo) (column : IndexColumn) :
    (indexColumnRecord index column).schema = skvSchemaIndexcolumnMeta := rfl

theorem metaSchemaNames :
    (skvSchemaTablecolumnMeta.name == skvSchemaTableMeta.name) = false ∧
      (skvSchemaIndexcolumnMeta.name == skvSchemaTableMeta.name) = false ∧
      (skvSchemaTableMeta.name == skvSchemaTablecolumnMeta.name) = false ∧
      (skvSchemaIndexcolumnMeta.name == skvSchemaTablecolumnMeta.name) = false ∧
      (skvSchemaTableMeta.name == skvSchemaIndexcolumnMeta.name) = false ∧
      (skvSchemaTablecolumnMeta.name == skvSchemaIndexcolumnMeta.name) = false := by
  decide

theorem ofSchema_tableMeta (table : TableInfo) :
    MetaStore.ofSchema skvSchemaTableMeta.name (persistedRecords table) =
      tableRecord table :: table.indexMap.map fun entry => indexRecord table entry.2 := by
  simp [MetaStore.ofSchema, persistedRecords, indexRecords, List.filter_flatMap, List.filter_map,
    Function.comp_def, metaSchemaNames, ← List.map_eq_flatMap]

theorem ofSchema_tablecolumnMeta (table : TableInfo) :
    MetaStore.ofSchema skvSchemaTablecolumnMeta.name (persistedRecords table) =
      (table.schema.columns.zip table.schema.columnIds).map (tableColumnRecord table) := by
  simp [MetaStore.ofSchema, persistedRecords, indexRecords, List.filter_flatMap, List.filter_map,
    Function.comp_def, metaSchemaNames]

theorem ofSchema_indexcolumnMeta (table : TableInfo) :
    MetaStore.ofSchema skvSchemaIndexcolumnMeta.name (persistedRecords table) =
      table.indexMap.flatMap fun entry => entry.2.columns.map (indexColumnRecord entry.2) := by
  simp [MetaStore.ofSchema, persistedRecords, indexRecords, List.filter_flatMap, List.filter_map,
    Function.comp_def, metaSchemaNames]

@[simp] theorem key_tableRecord (table : TableInfo) :
    (tableRecord table).key =
      [some (.int64 CatalogConsts.oid_table_meta), some (.int64 0), some (.string table.tableId)] := rfl

@[simp] theorem key_indexRecord (table : TableInfo) (index : IndexInfo) :
    (indexRecord table index).key =
      [some (.int64 CatalogConsts.oid_table_meta), some (.int64 0), some (.string index.tableId)] := rfl

@[simp] theorem key_tableColumnRecord (table : TableInfo) (entry : ColumnSchema × Int) :
    (tableColumnRecord table entry).key =
      [some (.int64 CatalogConsts.oid_tablecolumn_meta), some (.int64 0), some (.string table.tableId),
        some (.int32 entry.2)] := rfl

@[simp] theorem key_indexColumnRecord (index : IndexInfo) (column : IndexColumn) :
    (indexColumnRecord index column).key =
      [some (.int64 CatalogConsts.oid_indexcolumn_meta), some (.int64 0), some (.string index.tableId),
        some (.int32 column.columnId)] := rfl

theorem keyLe_tableColumnRecord (table : TableInfo) {entry other : ColumnSchema × Int}
    (before : entry.2 < other.2) :
    (tableColumnRecord table entry).keyLe (tableColumnRecord table other) = true := by
  simp [MetaRecord.keyLe, compareMetaFields, MetaField.compare, compare_lt_iff_lt.mpr before]

theorem keyLe_indexColumnRecord (index : IndexInfo) {column other : IndexColumn}
    (before : column.columnId < other.columnId) :
    (indexColumnRecord index column).keyLe (indexColumnRecord index other) = true := by
  simp [MetaRecord.keyLe, compareMetaFields, MetaField.compare, compare_lt_iff_lt.mpr before]

end TableInfoHandler

/-- The shape of the tables the catalog creates: the column ids number the columns, the key
columns are in front and not nullable, the schema version is that of a copied schema, and the
indexes are keyed by their own ids, distinct from the table's, each based on the table with its
column ids increasing. -/
structure CatalogTable (table : TableInfo) : Prop where
  columnIds : table.schema.columnIds = (List.range table.schema.columns.length).map Int.ofNat
  keysFirst : KeysFirst table.schema.columns table.schema.numKeyColumns
  keysNotNull : (table.schema.columns.take table.schema.numKeyColumns).any (·.isNullable) = false
  version : table.schema.version = 0
  indexIds : (table.tableId :: table.indexMap.map Prod.fst).Nodup
  indexKeys : ∀ entry ∈ table.indexMap, entry.1 = entry.2.tableId
  indexBase : ∀ entry ∈ table.indexMap, entry.2.baseTableId = table.tableId
  indexColumnIds : ∀ entry ∈ table.indexMap,
    (entry.2.columns.map IndexColumn.columnId).Pairwise (· < ·)

namespace CatalogTable

variable {table : TableInfo} (valid : CatalogTable table)
include valid

theorem columnIds_length : table.schema.columnIds.length = table.schema.columns.length := by
  simp [valid.columnIds]

theorem zip_snd :
    (table.schema.columns.zip table.schema.columnIds).map Prod.snd = table.schema.columnIds :=
  List.map_snd_zip (by rw [valid.columnIds_length])

theorem zip_fst :
    (table.schema.columns.zip table.schema.columnIds).map Prod.fst = table.schema.columns :=
  List.map_fst_zip (by rw [valid.columnIds_length])

theorem columnIds_increasing : table.schema.columnIds.Pairwise (· < ·) := by
  rw [valid.columnIds, List.pairwise_map]
  exact List.pairwise_lt_range.imp Int.ofNat_lt.mpr

theorem indexIds_eq : table.indexMap.map (·.2.tableId) = table.indexMap.map Prod.fst :=
  List.map_congr_left (fun entry member => (valid.indexKeys entry member).symm)

theorem indexIds_nodup : (table.indexMap.map Prod.fst).Nodup :=
  (List.nodup_cons.mp valid.indexIds).2

theorem indexTableIds_nodup : (table.indexMap.map (·.2.tableId)).Nodup := by
  rw [valid.indexIds_eq]
  exact valid.indexIds_nodup

end CatalogTable

namespace TableInfoHandler

variable {skv : MetaSkv} {store : MetaStore} {table : TableInfo}

theorem tableMetaKeys_nodup (valid : CatalogTable table) :
    ((MetaStore.ofSchema skvSchemaTableMeta.name (persistedRecords table)).map MetaRecord.key).Nodup := by
  rw [ofSchema_tableMeta]
  have keys : (tableRecord table :: table.indexMap.map fun entry => indexRecord table entry.2).map
      MetaRecord.key = (table.tableId :: table.indexMap.map Prod.fst).map fun id =>
        [some (.int64 CatalogConsts.oid_table_meta), some (.int64 0), some (.string id)] := by
    simp only [List.map_cons, List.map_map, key_tableRecord, ← valid.indexIds_eq]
    rfl
  rw [keys]
  exact List.Nodup.map (fun id other same => by simpa using same) valid.indexIds

theorem tablecolumnMetaKeys_nodup (valid : CatalogTable table) :
    ((MetaStore.ofSchema skvSchemaTablecolumnMeta.name (persistedRecords table)).map
      MetaRecord.key).Nodup := by
  rw [ofSchema_tablecolumnMeta, List.map_map]
  have keys : (table.schema.columns.zip table.schema.columnIds).map
      (MetaRecord.key ∘ tableColumnRecord table) =
        ((table.schema.columns.zip table.schema.columnIds).map Prod.snd).map fun id =>
          [some (.int64 CatalogConsts.oid_tablecolumn_meta), some (.int64 0),
            some (.string table.tableId), some (.int32 id)] := by
    rw [List.map_map]
    rfl
  rw [keys, valid.zip_snd]
  exact List.Nodup.map (fun id other same => by simpa using same)
    (valid.columnIds_increasing.imp ne_of_lt)

theorem indexcolumnMetaKeys_nodup (valid : CatalogTable table) :
    ((MetaStore.ofSchema skvSchemaIndexcolumnMeta.name (persistedRecords table)).map
      MetaRecord.key).Nodup := by
  rw [ofSchema_indexcolumnMeta, List.map_flatMap, List.nodup_flatMap]
  constructor
  · intro entry member
    have keys : (entry.2.columns.map (indexColumnRecord entry.2)).map MetaRecord.key =
        (entry.2.columns.map IndexColumn.columnId).map fun id =>
          [some (.int64 CatalogConsts.oid_indexcolumn_meta), some (.int64 0),
            some (.string entry.2.tableId), some (.int32 id)] := by
      simp only [List.map_map]
      rfl
    rw [keys]
    exact List.Nodup.map (fun id other same => by simpa using same)
      ((valid.indexColumnIds entry member).imp ne_of_lt)
  · refine (List.pairwise_map.mp valid.indexTableIds_nodup).imp ?_
    intro entry other differ key inEntry inOther
    simp only [List.map_map, List.mem_map, Function.comp_apply, key_indexColumnRecord] at inEntry inOther
    obtain ⟨column, _, rfl⟩ := inEntry
    obtain ⟨otherColumn, _, same⟩ := inOther
    simp only [List.cons.injEq, Option.some.injEq, MetaField.string.injEq] at same
    exact differ same.2.2.1.symm

@[simp] theorem key_tableMetaKey (tableId : String) :
    (tableMetaKey tableId).key =
      [some (.int64 CatalogConsts.oid_table_meta), some (.int64 0), some (.string tableId)] := rfl

theorem fetchTableMetaSKVRecord_persisted (valid : CatalogTable table) :
    fetchTableMetaSKVRecord skv (store.upsertAll (persistedRecords table)) table.tableId =
      .ok (tableRecord table) := by
  have found : (MetaStore.ofSchema (tableMetaKey table.tableId).schema.name
      (persistedRecords table)).find? (·.key == (tableMetaKey table.tableId).key) =
        some (tableRecord table) := by
    show (MetaStore.ofSchema skvSchemaTableMeta.name (persistedRecords table)).find? _ = _
    rw [ofSchema_tableMeta, List.find?_cons_of_pos]
    exact beq_self_eq_true _
  unfold fetchTableMetaSKVRecord
  rw [skv.read_found _ _ _ (MetaStore.find_upsertAll (tableMetaKeys_nodup valid) found)]
  rfl

theorem fetchTableColumnMetaSKVRecords_persisted (valid : CatalogTable table)
    (fresh : store.FreshFor table.tableId (table.indexMap.map Prod.fst)) :
    fetchTableColumnMetaSKVRecords skv (store.upsertAll (persistedRecords table)) table.tableId =
      (table.schema.columns.zip table.schema.columnIds).map (tableColumnRecord table) := by
  have unselected : ∀ old ∈ store.records skvSchemaTablecolumnMeta.name,
      (old.stringField 2 == some table.tableId) = false := by
    intro old member
    simpa using fresh.noColumnOf old member
  unfold fetchTableColumnMetaSKVRecords
  rw [skv.scan_keyOrder, MetaStore.select_upsertAll (tablecolumnMetaKeys_nodup valid) unselected,
    ofSchema_tablecolumnMeta,
    List.filter_eq_self.mpr]
  · apply List.mergeSort_of_pairwise
    have increasing := valid.columnIds_increasing
    rw [← valid.zip_snd, List.pairwise_map] at increasing
    exact List.pairwise_map.mpr (increasing.imp (keyLe_tableColumnRecord table))
  · intro record member
    obtain ⟨entry, _, rfl⟩ := List.mem_map.mp member
    simp [tableColumnRecord, tableColumnMetaValues, MetaRecord.stringField, MetaField.asString?,
      List.isPrefixOf]

theorem buildTableInfo_persisted (valid : CatalogTable table) :
    buildTableInfo table.databaseId table.databaseName (tableRecord table)
      ((table.schema.columns.zip table.schema.columnIds).map (tableColumnRecord table)) =
        .ok { table with indexMap := [] } := by
  have columnsRead := Except.mapM_map_of_inverse (readTableColumn_tableColumnRecord table)
    (table.schema.columns.zip table.schema.columnIds)
  have reset : TableSchema.reset table.schema.columns table.schema.columnIds
      (table.schema.columns.countP (·.isKey)) =
        .ok { columns := table.schema.columns, columnIds := table.schema.columnIds,
              numKeyColumns := table.schema.numKeyColumns } := by
    rw [valid.keysFirst.countP_isKey,
      TableSchema.reset_of_keysFirst valid.keysFirst valid.columnIds_length, valid.keysNotNull]
    rfl
  have built : buildTableInfo table.databaseId table.databaseName (tableRecord table)
      ((table.schema.columns.zip table.schema.columnIds).map (tableColumnRecord table)) =
        .ok { table with schema := table.schema.copy, indexMap := [] } := by
    unfold buildTableInfo
    simp only [readTableMeta_tableRecord, columnsRead, valid.zip_fst, valid.zip_snd, reset,
      Except.ok_bind]
    rfl
  have copied : table.schema.copy = table.schema := by
    unfold TableSchema.copy
    rw [← valid.version]
  rw [built, copied]

theorem fetchIndexMetaSKVRecords_persisted (valid : CatalogTable table)
    (fresh : store.FreshFor table.tableId (table.indexMap.map Prod.fst)) :
    (fetchIndexMetaSKVRecords skv (store.upsertAll (persistedRecords table)) table.tableId).Perm
      (table.indexMap.map fun entry => indexRecord table entry.2) := by
  have unselected : ∀ old ∈ store.records skvSchemaTableMeta.name,
      (old.stringField 10 == some table.tableId) = false := by
    intro old member
    simpa using fresh.noIndexOf old member
  unfold fetchIndexMetaSKVRecords
  rw [skv.scan_keyOrder, MetaStore.select_upsertAll (tableMetaKeys_nodup valid) unselected,
    ofSchema_tableMeta]
  rw [List.filter_cons_of_neg (by simp [tableRecord, tableMetaValues, MetaRecord.stringField]),
    List.filter_eq_self.mpr]
  · exact List.mergeSort_perm _ _
  · intro record member
    obtain ⟨entry, entryMember, rfl⟩ := List.mem_map.mp member
    simp [indexRecord, indexMetaValues, MetaRecord.stringField, MetaField.asString?, List.isPrefixOf,
      valid.indexBase entry entryMember]

theorem fetchIndexColumnMetaSKVRecords_persisted (valid : CatalogTable table)
    (fresh : store.FreshFor table.tableId (table.indexMap.map Prod.fst))
    {entry : String × IndexInfo} (member : entry ∈ table.indexMap) :
    fetchIndexColumnMetaSKVRecords skv (store.upsertAll (persistedRecords table)) entry.2.tableId =
      entry.2.columns.map (indexColumnRecord entry.2) := by
  have unselected : ∀ old ∈ store.records skvSchemaIndexcolumnMeta.name,
      (old.stringField 2 == some entry.2.tableId) = false := by
    intro old oldMember
    have named := fresh.noIndexColumnOf old oldMember entry.1 (List.mem_map_of_mem member)
    rw [valid.indexKeys entry member] at named
    simpa using named
  have picked : ∀ other ∈ table.indexMap,
      (other.2.columns.map (indexColumnRecord other.2)).filter (fun record =>
        [some (.int64 CatalogConsts.oid_indexcolumn_meta), some (.int64 0),
          some (.string entry.2.tableId)].isPrefixOf record.fieldData &&
            record.stringField 2 == some entry.2.tableId) =
        if other.2.tableId = entry.2.tableId then other.2.columns.map (indexColumnRecord other.2)
        else [] := by
    intro other _
    split
    · rename_i same
      apply List.filter_eq_self.mpr
      intro record recordMember
      obtain ⟨column, _, rfl⟩ := List.mem_map.mp recordMember
      simp [indexColumnRecord, indexColumnMetaValues, MetaRecord.stringField, MetaField.asString?,
        List.isPrefixOf, same]
    · rename_i differs
      apply List.filter_eq_nil_iff.mpr
      intro record recordMember
      obtain ⟨column, _, rfl⟩ := List.mem_map.mp recordMember
      simp [indexColumnRecord, indexColumnMetaValues, MetaRecord.stringField, MetaField.asString?,
        differs]
  unfold fetchIndexColumnMetaSKVRecords
  rw [skv.scan_keyOrder, MetaStore.select_upsertAll (indexcolumnMetaKeys_nodup valid) unselected,
    ofSchema_indexcolumnMeta,
    List.filter_flatMap, List.flatMap_congr picked,
    List.flatMap_of_key (·.2.tableId) _ table.indexMap entry valid.indexTableIds_nodup member]
  apply List.mergeSort_of_pairwise
  exact List.pairwise_map.mpr ((List.pairwise_map.mp (valid.indexColumnIds entry member)).imp
    (keyLe_indexColumnRecord entry.2))

theorem buildIndexInfoOfRecord_persisted (valid : CatalogTable table)
    (fresh : store.FreshFor table.tableId (table.indexMap.map Prod.fst))
    {entry : String × IndexInfo} (member : entry ∈ table.indexMap) :
    buildIndexInfoOfRecord skv (store.upsertAll (persistedRecords table)) (indexRecord table entry.2) =
      .ok entry.2 := by
  have columnsRead := Except.mapM_map_of_inverse (readIndexColumn_indexColumnRecord entry.2)
    entry.2.columns
  unfold buildIndexInfoOfRecord
  simp only [readIndexMeta_indexRecord, Except.ok_bind, IndexPermissions.ofInt?_toInt,
    fetchIndexColumnMetaSKVRecords_persisted valid fresh member, columnsRead]
  rfl

theorem foldlM_addSecondaryIndex {build : MetaRecord → Except String IndexInfo}
    {record : IndexInfo → MetaRecord} :
    ∀ (entries : List (String × IndexInfo)) (acc : TableInfo),
      (∀ entry ∈ entries, build (record entry.2) = .ok entry.2 ∧ entry.1 = entry.2.tableId) →
      ((acc.indexMap ++ entries).map Prod.fst).Nodup →
      entries.foldlM (fun table entry => do
          let index ← build (record entry.2)
          pure (table.addSecondaryIndex index.tableId index)) acc =
        .ok { acc with indexMap := acc.indexMap ++ entries }
  | [], acc, _, _ => by
      simp only [List.append_nil]
      rfl
  | entry :: rest, acc, reads, distinct => by
      obtain ⟨read, keyed⟩ := reads entry List.mem_cons_self
      have notInAcc : entry.1 ∉ acc.indexMap.map Prod.fst := by
        have split := distinct
        rw [List.map_append, List.map_cons, List.nodup_append] at split
        exact fun inAcc => split.2.2 entry.1 inAcc entry.1 List.mem_cons_self rfl
      have absent : acc.indexMap.lookup entry.2.tableId = none := by
        rw [List.lookup_eq_none_iff]
        intro present presentMember
        have differs : entry.1 ≠ present.1 := by
          intro same
          apply notInAcc
          rw [same]
          exact List.mem_map_of_mem presentMember
        rw [← keyed]
        simpa using differs
      have added : acc.addSecondaryIndex entry.2.tableId entry.2 =
          { acc with indexMap := acc.indexMap ++ [entry] } := by
        unfold TableInfo.addSecondaryIndex
        rw [absent]
        simp only [Option.isSome_none, Bool.false_eq_true, if_false]
        rw [← keyed]
      have grown : (({ acc with indexMap := acc.indexMap ++ [entry] } : TableInfo).indexMap ++ rest).map
          Prod.fst = (acc.indexMap ++ entry :: rest).map Prod.fst := by
        simp
      rw [List.foldlM_cons, read, Except.ok_bind, pure_bind, added,
        foldlM_addSecondaryIndex rest _ (fun other otherMember => reads other
          (List.mem_cons_of_mem _ otherMember)) (grown ▸ distinct)]
      simp

theorem getTable_persistTableMeta (skv : MetaSkv) (valid : CatalogTable table)
    (fresh : store.FreshFor table.tableId (table.indexMap.map Prod.fst)) :
    ∃ persisted read, persistTableMeta skv store table = .ok persisted ∧
      getTable skv persisted table.databaseId table.databaseName table.tableId = .ok read ∧
      read.indexMap.Perm table.indexMap ∧ { read with indexMap := table.indexMap } = table := by
  -- the index records come back in key order: some order of the table's entries
  have reordered := (congrFun (congrFun
    (List.eq_map_comp_perm fun (entry : String × IndexInfo) => indexRecord table entry.2)
    (fetchIndexMetaSKVRecords skv (store.upsertAll (persistedRecords table)) table.tableId))
    table.indexMap).mpr (fetchIndexMetaSKVRecords_persisted valid fresh)
  obtain ⟨entries, sorted, entriesPerm⟩ := reordered
  have reads : ∀ entry ∈ entries,
      buildIndexInfoOfRecord skv (store.upsertAll (persistedRecords table)) (indexRecord table entry.2) =
        .ok entry.2 ∧ entry.1 = entry.2.tableId := by
    intro entry member
    have inTable := entriesPerm.mem_iff.mp member
    exact ⟨buildIndexInfoOfRecord_persisted valid fresh inTable, valid.indexKeys entry inTable⟩
  have distinct : (([] ++ entries).map Prod.fst).Nodup := by
    rw [List.nil_append, (entriesPerm.map Prod.fst).nodup_iff]
    exact valid.indexIds_nodup
  refine ⟨store.upsertAll (persistedRecords table), { table with indexMap := entries },
    persistTableMeta_eq skv store table, ?_, entriesPerm, rfl⟩
  unfold getTable
  simp only [fetchTableMetaSKVRecord_persisted valid, fetchTableColumnMetaSKVRecords_persisted valid fresh,
    buildTableInfo_persisted valid, sorted, List.foldlM_map, Except.ok_bind]
  rw [foldlM_addSecondaryIndex entries { table with indexMap := [] } reads distinct]
  rfl

end TableInfoHandler

end ChogoriSql
