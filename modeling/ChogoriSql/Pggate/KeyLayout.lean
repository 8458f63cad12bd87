import ChogoriSql.Pggate.DmlWrite
import ChogoriSql.Catalog.CopyDatabase

/-! The key layout the DDL, catalog and DML layers agree on.  `PgCreateTable` adds its columns one
`AddColumn` call at a time, after the `k2pgrowid` column its constructor adds to a table without
a primary key; `SchemaBuilder::AddColumn` inserts each key column after the key columns already
there and drops a column whose name is taken.  With every key column added before the other
columns, the built schema has the key columns in front in the order they were added;
`DeriveSKVSchemaFromTableInfo` then makes them, after the two id fields, the partition key of the
SKV schema, column `i` at field `i + 2`, and `PgTableDesc` marks them primary, so the index of a
bind variable plus `SKV_FIELD_OFFSET` is the field of its own column. -/

namespace ChogoriSql

structure AddColumnCall where
  attrName : String
  attrNum : Int
  type : K2SqlDataType
  isHash : Bool
  isRange : Bool
  sortingType : SortingType := .kNotSpecified
  deriving DecidableEq, Repr

def AddColumnCall.toColumnSchema (call : AddColumnCall) : ColumnSchema :=
  { name := call.attrName, type := call.type, isNullable := !(call.isHash || call.isRange),
    isKey := call.isRange || call.isHash, order := call.attrNum, sortingType := call.sortingType }

@[simp] theorem AddColumnCall.toColumnSchema_name (call : AddColumnCall) :
    call.toColumnSchema.name = call.attrName := rfl

/-- `PgCreateTable::AddColumn`, which forwards to `AddColumnImpl`. -/
def PgCreateTable.addColumn (stmt : PgCreateTable) (call : AddColumnCall) :
    Except Status PgCreateTable :=
  stmt.addColumnImpl call.attrName call.attrNum call.type call.isHash call.isRange call.sortingType

def rowIdCall (isPgCatalogTable : Bool) : AddColumnCall :=
  { attrName := "k2pgrowid", attrNum := kPgRowId, type := .K2SQL_DATA_TYPE_BINARY,
    isHash := !isPgCatalogTable, isRange := true }

def rowIdCalls (isPgCatalogTable addPrimaryKey : Bool) : List AddColumnCall :=
  if addPrimaryKey then [rowIdCall isPgCatalogTable] else []

def PgCreateTable.create (isPgCatalogTable addPrimaryKey : Bool) : Except Status PgCreateTable :=
  (rowIdCalls isPgCatalogTable addPrimaryKey).foldlM PgCreateTable.addColumn {}

def keepNew (kept : List ColumnSchema) (column : ColumnSchema) : List ColumnSchema :=
  if kept.any (·.name == column.name) then kept else kept ++ [column]

def keepFirstNames (cols : List ColumnSchema) : List ColumnSchema :=
  cols.foldl keepNew []

theorem keepNew_taken {kept : List ColumnSchema} {column : ColumnSchema}
    (taken : kept.any (·.name == column.name) = true) : keepNew kept column = kept := by
  unfold keepNew
  rw [if_pos taken]

theorem keepNew_fresh {kept : List ColumnSchema} {column : ColumnSchema}
    (fresh : ¬ kept.any (·.name == column.name) = true) : keepNew kept column = kept ++ [column] := by
  unfold keepNew
  rw [if_neg fresh]

theorem foldl_keepNew_append (kept cols : List ColumnSchema) :
    ∃ added, cols.foldl keepNew kept = kept ++ added ∧ ∀ column ∈ added, column ∈ cols := by
  induction cols generalizing kept with
  | nil => exact ⟨[], by simp, by simp⟩
  | cons column rest ih =>
      obtain ⟨added, grown, fromRest⟩ := ih (keepNew kept column)
      rw [List.foldl_cons, grown]
      unfold keepNew
      split
      · exact ⟨added, rfl, fun other member => List.mem_cons_of_mem _ (fromRest other member)⟩
      · refine ⟨column :: added, by simp, ?_⟩
        intro other member
        rcases List.mem_cons.mp member with rfl | later
        · exact List.mem_cons_self
        · exact List.mem_cons_of_mem _ (fromRest other later)

theorem foldl_keepNew_names_nodup (cols : List ColumnSchema) :
    ∀ (kept : List ColumnSchema), (kept.map ColumnSchema.name).Nodup →
      ((cols.foldl keepNew kept).map ColumnSchema.name).Nodup := by
  induction cols with
  | nil => intro kept distinct; exact distinct
  | cons column rest ih =>
      intro kept distinct
      apply ih
      unfold keepNew
      split
      · exact distinct
      · rename_i fresh
        rw [List.map_append, List.nodup_append]
        refine ⟨distinct, List.nodup_singleton _, ?_⟩
        intro name member other same named
        simp only [List.map_cons, List.map_nil, List.mem_singleton] at same
        subst same
        obtain ⟨taken, inKept, rfl⟩ := List.mem_map.mp member
        exact fresh (List.any_eq_true.mpr ⟨taken, inKept, by simp [named]⟩)

theorem PgCreateTable.addColumn_keepNew {stmt next : PgCreateTable} {kept : List ColumnSchema}
    {numKeyColumns : Nat} {call : AddColumnCall}
    (built : stmt.schemaBuilder = .ofColumns kept numKeyColumns)
    (atEnd : (call.isRange || call.isHash) = true → numKeyColumns = kept.length)
    (added : stmt.addColumn call = .ok next) :
    next.schemaBuilder = .ofColumns (keepNew kept call.toColumnSchema)
      (if kept.any (·.name == call.attrName) then numKeyColumns
        else numKeyColumns + if call.isRange || call.isHash then 1 else 0) := by
  unfold PgCreateTable.addColumn at added
  by_cases taken : kept.any (·.name == call.attrName) = true
  · have unchanged := PgCreateTable.addColumnImpl_taken (by rw [built]; exact taken) added
    rw [unchanged, built, if_pos taken, keepNew_taken (by simpa using taken)]
  · have fresh : call.attrName ∉ kept.map ColumnSchema.name := by
      intro member
      obtain ⟨column, inKept, named⟩ := List.mem_map.mp member
      exact taken (List.any_eq_true.mpr ⟨column, inKept, by simp [named]⟩)
    rw [PgCreateTable.addColumnImpl_schemaBuilder built fresh atEnd added, if_neg taken,
      keepNew_fresh (by simpa using taken)]
    rfl

theorem foldlM_addColumn_keys (calls : List AddColumnCall)
    (keyed : ∀ call ∈ calls, (call.isHash || call.isRange) = true) :
    ∀ {stmt next : PgCreateTable} {kept : List ColumnSchema},
      stmt.schemaBuilder = .ofColumns kept kept.length →
      calls.foldlM PgCreateTable.addColumn stmt = .ok next →
      next.schemaBuilder = .ofColumns ((calls.map AddColumnCall.toColumnSchema).foldl keepNew kept)
        ((calls.map AddColumnCall.toColumnSchema).foldl keepNew kept).length := by
  induction calls with
  | nil =>
      intro stmt next kept built ran
      cases ran
      exact built
  | cons call rest ih =>
      intro stmt next kept built ran
      rw [List.foldlM_cons] at ran
      obtain ⟨middle, step, restRan⟩ := Except.bind_eq_ok ran
      have isKey : (call.isRange || call.isHash) = true := by
        rw [Bool.or_comm]
        exact keyed call List.mem_cons_self
      have middleBuilt := PgCreateTable.addColumn_keepNew built (fun _ => rfl) step
      have counted : (if kept.any (·.name == call.attrName) then kept.length
          else kept.length + if call.isRange || call.isHash then 1 else 0) =
          (keepNew kept call.toColumnSchema).length := by
        by_cases taken : kept.any (·.name == call.attrName) = true
        · rw [if_pos taken, keepNew_taken (by simpa using taken)]
        · rw [if_neg taken, keepNew_fresh (by simpa using taken), if_pos isKey, List.length_append,
            List.length_singleton]
      rw [counted] at middleBuilt
      exact ih (fun other member => keyed other (List.mem_cons_of_mem _ member)) middleBuilt restRan

theorem foldlM_addColumn_values (calls : List AddColumnCall)
    (unkeyed : ∀ call ∈ calls, call.isHash = false ∧ call.isRange = false) :
    ∀ {stmt next : PgCreateTable} {kept : List ColumnSchema} {numKeyColumns : Nat},
      stmt.schemaBuilder = .ofColumns kept numKeyColumns →
      calls.foldlM PgCreateTable.addColumn stmt = .ok next →
      next.schemaBuilder =
        .ofColumns ((calls.map AddColumnCall.toColumnSchema).foldl keepNew kept) numKeyColumns := by
  induction calls with
  | nil =>
      intro stmt next kept numKeyColumns built ran
      cases ran
      exact built
  | cons call rest ih =>
      intro stmt next kept numKeyColumns built ran
      rw [List.foldlM_cons] at ran
      obtain ⟨middle, step, restRan⟩ := Except.bind_eq_ok ran
      obtain ⟨notHash, notRange⟩ := unkeyed call List.mem_cons_self
      have notKey : (call.isRange || call.isHash) = false := by simp [notHash, notRange]
      have middleBuilt := PgCreateTable.addColumn_keepNew built (by simp [notKey]) step
      simp only [notKey, Bool.false_eq_true, if_false, Nat.add_zero, ite_self] at middleBuilt
      exact ih (fun other member => unkeyed other (List.mem_cons_of_mem _ member)) middleBuilt
        restRan

theorem addColumns_keysFirst (isPgCatalogTable addPrimaryKey : Bool)
    (keyCalls valueCalls : List AddColumnCall)
    (keyed : ∀ call ∈ keyCalls, (call.isHash || call.isRange) = true)
    (unkeyed : ∀ call ∈ valueCalls, call.isHash = false ∧ call.isRange = false)
    {stmt : PgCreateTable}
    (added : (PgCreateTable.create isPgCatalogTable addPrimaryKey >>= fun init =>
      (keyCalls ++ valueCalls).foldlM PgCreateTable.addColumn init) = .ok stmt) :
    let calls := rowIdCalls isPgCatalogTable addPrimaryKey ++ keyCalls ++ valueCalls
    let keys := ((rowIdCalls isPgCatalogTable addPrimaryKey ++ keyCalls).map
      AddColumnCall.toColumnSchema).foldl keepNew []
    stmt.schemaBuilder = .ofColumns (keepFirstNames (calls.map AddColumnCall.toColumnSchema))
        keys.length ∧
      KeysFirst (keepFirstNames (calls.map AddColumnCall.toColumnSchema)) keys.length := by
  intro calls keys
  obtain ⟨init, created, ran⟩ := Except.bind_eq_ok added
  rw [List.foldlM_append] at ran
  obtain ⟨afterKeys, keysRan, valuesRan⟩ := Except.bind_eq_ok ran
  have allKeyed : ∀ call ∈ rowIdCalls isPgCatalogTable addPrimaryKey ++ keyCalls,
      (call.isHash || call.isRange) = true := by
    intro call member
    rcases List.mem_append.mp member with rowId | key
    · unfold rowIdCalls at rowId
      split at rowId
      · rw [List.mem_singleton.mp rowId]
        simp [rowIdCall]
      · cases rowId
    · exact keyed call key
  have keysRun : (rowIdCalls isPgCatalogTable addPrimaryKey ++ keyCalls).foldlM
      PgCreateTable.addColumn {} = .ok afterKeys := by
    rw [List.foldlM_append]
    unfold PgCreateTable.create at created
    rw [created]
    exact keysRan
  have emptyBuilt : ({} : PgCreateTable).schemaBuilder =
      SchemaBuilder.ofColumns [] ([] : List ColumnSchema).length := rfl
  have keysBuilt := foldlM_addColumn_keys _ allKeyed emptyBuilt keysRun
  have built := foldlM_addColumn_values valueCalls unkeyed keysBuilt valuesRan
  have sameColumns : (valueCalls.map AddColumnCall.toColumnSchema).foldl keepNew keys =
      keepFirstNames (calls.map AddColumnCall.toColumnSchema) := by
    simp only [keepFirstNames, calls, keys, List.map_append, List.foldl_append]
  rw [sameColumns] at built
  refine ⟨built, ?_⟩
  obtain ⟨values, appended, fromValues⟩ :=
    foldl_keepNew_append keys (valueCalls.map AddColumnCall.toColumnSchema)
  rw [← sameColumns, appended]
  have keysAreKeys : ∀ column ∈ keys, column.isKey = true := by
    intro column member
    obtain ⟨keyList, keysEq, inKeys⟩ := foldl_keepNew_append []
      ((rowIdCalls isPgCatalogTable addPrimaryKey ++ keyCalls).map AddColumnCall.toColumnSchema)
    have isKeyList : keys = keyList := by
      rw [List.nil_append] at keysEq
      exact keysEq
    rw [isKeyList] at member
    obtain ⟨call, inCalls, rfl⟩ := List.mem_map.mp (inKeys column member)
    simpa [AddColumnCall.toColumnSchema, Bool.or_comm] using allKeyed call inCalls
  have valuesAreValues : ∀ column ∈ values, column.isKey = false := by
    intro column member
    obtain ⟨call, inCalls, rfl⟩ := List.mem_map.mp (fromValues column member)
    obtain ⟨notHash, notRange⟩ := unkeyed call inCalls
    simp [AddColumnCall.toColumnSchema, notHash, notRange]
  have names := foldl_keepNew_names_nodup (valueCalls.map AddColumnCall.toColumnSchema) keys
    (foldl_keepNew_names_nodup _ [] List.nodup_nil)
  rw [appended] at names
  exact KeysFirst.of_append keysAreKeys valuesAreValues names

theorem keepFirstNames_nullable (calls : List AddColumnCall) :
    ∀ column ∈ keepFirstNames (calls.map AddColumnCall.toColumnSchema),
      column.isNullable = !column.isKey := by
  intro column member
  obtain ⟨kept, keptEq, fromCalls⟩ := foldl_keepNew_append [] (calls.map AddColumnCall.toColumnSchema)
  rw [keepFirstNames, keptEq, List.nil_append] at member
  obtain ⟨call, -, rfl⟩ := List.mem_map.mp (fromCalls column member)
  simp [AddColumnCall.toColumnSchema, Bool.or_comm]

def PgSchema.toTableSchema (schema : PgSchema) : TableSchema :=
  { columns := schema.columns, columnIds := schema.columnIds, numKeyColumns := schema.numKeyColumns }

theorem KeysFirst.isKey_iff {cols : List ColumnSchema} {numKeyColumns : Nat}
    (keysFirst : KeysFirst cols numKeyColumns) :
    ∀ i (h : i < cols.length), i < numKeyColumns ↔ cols[i].isKey = true := by
  intro i h
  constructor
  · intro front
    exact keysFirst.keys _ (List.mem_iff_getElem.mpr ⟨i, by simp; omega, by simp⟩)
  · intro isKey
    by_contra back
    have notKey := keysFirst.values cols[i]
      (List.mem_iff_getElem.mpr ⟨i - numKeyColumns, by simp; omega, by simp; congr 1; omega⟩)
    rw [isKey] at notKey
    cases notKey

theorem buildSchema_ofColumns {cols : List ColumnSchema} {numKeyColumns : Nat}
    (keysFirst : KeysFirst cols numKeyColumns)
    (nullable : ∀ column ∈ cols, column.isNullable = !column.isKey) :
    (SchemaBuilder.ofColumns cols numKeyColumns).buildSchema =
      .ok { columns := cols, columnIds := (List.range cols.length).map Int.ofNat, numKeyColumns } := by
  have keysNotNull : (cols.take numKeyColumns).any (·.isNullable) = false := by
    rw [List.any_eq_false]
    intro column member
    have inCols := List.mem_of_mem_take member
    simp [nullable column inCols, keysFirst.keys column member]
  unfold SchemaBuilder.buildSchema
  simp only [SchemaBuilder.ofColumns_cols, SchemaBuilder.ofColumns_colIds,
    SchemaBuilder.ofColumns_numKeyColumns]
  rw [TableSchema.reset_of_keysFirst keysFirst (by simp), if_neg (by simp [keysNotNull])]
  rfl

theorem deriveSKVSchemaFromTableInfo_field_name (tableId : String) (schema : PgSchema) :
    ∀ i (h : i < schema.columns.length),
      ((deriveSKVSchemaFromTableInfo tableId schema).fields[i + SKV_FIELD_OFFSET]?).map
        SchemaField.name = some schema.columns[i].name := by
  intro i h
  have names := congrArg (·[i]?) (deriveSKVSchemaFromTableInfo_column_names tableId schema)
  simp only [List.getElem?_map, List.getElem?_drop] at names
  rw [SKV_FIELD_OFFSET, Nat.add_comm, names, List.getElem?_eq_getElem h]
  rfl

theorem PgTableDesc.ofSchema_isPrimary (collectionName tableId : String)
    (baseTableOid indexOid : UInt32) (schema : PgSchema) :
    ∀ i (h : i < (PgTableDesc.ofSchema collectionName tableId baseTableOid indexOid schema).columns.length),
      (PgTableDesc.ofSchema collectionName tableId baseTableOid indexOid schema).columns[i].isPrimary = true ↔
        i < schema.numKeyColumns := by
  intro i h
  simp [PgTableDesc.ofSchema, PgSchema.columnDesc]

theorem PgTableDesc.findColumn_ofSchema {collectionName tableId : String}
    {baseTableOid indexOid : UInt32} {schema : PgSchema} {attrNum : Int} {column : PgColumnDesc}
    (found : (PgTableDesc.ofSchema collectionName tableId baseTableOid indexOid schema).findColumn
      attrNum = .ok column) :
    ∃ i, ∃ (h : i < schema.columns.length), column = schema.columnDesc i schema.columns[i] := by
  unfold PgTableDesc.findColumn at found
  split at found
  · rename_i desc lookup
    cases found
    obtain ⟨i, h, described⟩ := List.mem_mapIdx.mp (List.mem_of_find?_eq_some lookup)
    exact ⟨i, h, described.symm⟩
  · cases found

theorem deriveSKVSchemaFromTableInfo_newTableInfo (databaseId databaseName : String)
    (databaseOid tableOid : UInt32) (tableName : String) (schema : PgSchema)
    (isSysCatalogTable isSharedTable : Bool) (copiedMaxColId : Int) (tableId : String) :
    let table := SqlCatalogManager.newTableInfo databaseId databaseName databaseOid tableOid tableName
      schema.toTableSchema isSysCatalogTable isSharedTable copiedMaxColId
    (TableInfoHandler.deriveSKVSchemaFromTableInfo table).fields =
        (deriveSKVSchemaFromTableInfo tableId schema).fields ∧
      (TableInfoHandler.deriveSKVSchemaFromTableInfo table).partitionKeyFields =
        (deriveSKVSchemaFromTableInfo tableId schema).partitionKeyFields :=
  ⟨rfl, rfl⟩

/-- The key layout of a table: after a run of `AddColumn` calls with the key columns, hash or
range, before the others, following the `k2pgrowid` column of a table without a primary key, the
built schema holds the kept columns in call order with the key columns exactly in front and ids
numbering them; its SKV schema, in the catalog as in pggate, has the key columns after the two id
fields as its partition key and column `i` at field `i + 2`; and the table descriptor marks exactly
the key columns primary, so the field a found column's bind variable addresses is the column's own,
a key field exactly when the column is primary. -/
theorem createTable_keyLayout (isPgCatalogTable addPrimaryKey : Bool)
    (keyCalls valueCalls : List AddColumnCall)
    (keyed : ∀ call ∈ keyCalls, (call.isHash || call.isRange) = true)
    (unkeyed : ∀ call ∈ valueCalls, call.isHash = false ∧ call.isRange = false)
    {stmt : PgCreateTable}
    (added : (PgCreateTable.create isPgCatalogTable addPrimaryKey >>= fun init =>
      (keyCalls ++ valueCalls).foldlM PgCreateTable.addColumn init) = .ok stmt)
    (tableId collectionName : String) (baseTableOid : UInt32) (version : Nat) :
    ∃ keysFirst : KeysFirst stmt.schemaBuilder.cols stmt.schemaBuilder.numKeyColumns,
      let columns := keepFirstNames ((rowIdCalls isPgCatalogTable addPrimaryKey ++ keyCalls ++
        valueCalls).map AddColumnCall.toColumnSchema)
      let schema := stmt.schemaBuilder.build version keysFirst
      let skv := deriveSKVSchemaFromTableInfo tableId schema
      let desc := PgTableDesc.ofSchema collectionName tableId baseTableOid 0 schema
      stmt.schemaBuilder.buildSchema = .ok schema.toTableSchema ∧
      schema.columns = columns ∧
      (∀ i (h : i < columns.length), i < schema.numKeyColumns ↔ columns[i].isKey = true) ∧
      schema.columnIds = (List.range columns.length).map Int.ofNat ∧
      skv.partitionKeyFields = List.range (schema.numKeyColumns + 2) ∧
      (∀ i (h : i < columns.length),
        (skv.fields[i + SKV_FIELD_OFFSET]?).map SchemaField.name = some columns[i].name) ∧
      (∀ databaseId databaseName databaseOid tableOid tableName isSharedTable copiedMaxColId,
        let table := SqlCatalogManager.newTableInfo databaseId databaseName databaseOid tableOid
          tableName schema.toTableSchema isPgCatalogTable isSharedTable copiedMaxColId
        (TableInfoHandler.deriveSKVSchemaFromTableInfo table).fields = skv.fields ∧
          (TableInfoHandler.deriveSKVSchemaFromTableInfo table).partitionKeyFields =
            skv.partitionKeyFields) ∧
      (∀ i (h : i < desc.columns.length), desc.columns[i].isPrimary = true ↔ i < schema.numKeyColumns) ∧
      ∀ attrNum column, desc.findColumn attrNum = .ok column →
        (skv.fields[column.index + SKV_FIELD_OFFSET]?).map SchemaField.name = some column.name ∧
          (column.index + SKV_FIELD_OFFSET ∈ skv.partitionKeyFields ↔ column.isPrimary = true) := by
  obtain ⟨built, layout⟩ := addColumns_keysFirst isPgCatalogTable addPrimaryKey keyCalls valueCalls
    keyed unkeyed added
  have keysFirst : KeysFirst stmt.schemaBuilder.cols stmt.schemaBuilder.numKeyColumns := by
    rw [built]
    exact layout
  refine ⟨keysFirst, ?_⟩
  intro columns schema skv desc
  have columnsEq : schema.columns = columns := by
    show stmt.schemaBuilder.cols = columns
    rw [built, SchemaBuilder.ofColumns_cols]
  have idsEq : schema.columnIds = (List.range columns.length).map Int.ofNat := by
    show stmt.schemaBuilder.colIds = _
    rw [built, SchemaBuilder.ofColumns_colIds]
  have keyCount : schema.numKeyColumns = stmt.schemaBuilder.numKeyColumns := rfl
  have partitionKeys : skv.partitionKeyFields = List.range (schema.numKeyColumns + 2) :=
    deriveSKVSchemaFromTableInfo_partitionKeyFields tableId schema
  have fieldNames : ∀ i (h : i < schema.columns.length),
      (skv.fields[i + SKV_FIELD_OFFSET]?).map SchemaField.name = some schema.columns[i].name :=
    deriveSKVSchemaFromTableInfo_field_name tableId schema
  refine ⟨?_, columnsEq, ?_, idsEq, partitionKeys, ?_, ?_, ?_, ?_⟩
  · have tableSchemaEq : schema.toTableSchema =
        ⟨columns, (List.range columns.length).map Int.ofNat, stmt.schemaBuilder.numKeyColumns, 0⟩ := by
      unfold PgSchema.toTableSchema
      rw [columnsEq, idsEq, keyCount]
    rw [tableSchemaEq, built]
    exact buildSchema_ofColumns layout (keepFirstNames_nullable _)
  · intro i h
    have isKeyIff := schema.keysFirst.isKey_iff i (by rw [columnsEq]; exact h)
    simp only [columnsEq] at isKeyIff
    exact isKeyIff
  · intro i h
    have named := fieldNames i (by rw [columnsEq]; exact h)
    simp only [columnsEq] at named
    exact named
  · intro databaseId databaseName databaseOid tableOid tableName isSharedTable copiedMaxColId
    exact deriveSKVSchemaFromTableInfo_newTableInfo databaseId databaseName databaseOid tableOid
      tableName schema isPgCatalogTable isSharedTable copiedMaxColId tableId
  · exact PgTableDesc.ofSchema_isPrimary collectionName tableId baseTableOid 0 schema
  · intro attrNum column found
    obtain ⟨i, inBounds, rfl⟩ := PgTableDesc.findColumn_ofSchema found
    refine ⟨fieldNames i inBounds, ?_⟩
    show i + SKV_FIELD_OFFSET ∈ skv.partitionKeyFields ↔ decide (i < schema.numKeyColumns) = true
    rw [partitionKeys, List.mem_range, decide_eq_true_iff, SKV_FIELD_OFFSET]
    omega

def hashKeyCall : AddColumnCall :=
  { attrName := "k", attrNum := 1, type := .K2SQL_DATA_TYPE_INT64, isHash := true, isRange := false }

def textValueCall : AddColumnCall :=
  { attrName := "v", attrNum := 2, type := .K2SQL_DATA_TYPE_STRING, isHash := false, isRange := false }

theorem createTable_keyLayout_hashKey :
    ∃ stmt, (PgCreateTable.create false false >>= fun init =>
        ([hashKeyCall] ++ [textValueCall]).foldlM PgCreateTable.addColumn init) = .ok stmt ∧
      ∃ keysFirst : KeysFirst stmt.schemaBuilder.cols stmt.schemaBuilder.numKeyColumns,
        let columns := keepFirstNames ((rowIdCalls false false ++ [hashKeyCall] ++
          [textValueCall]).map AddColumnCall.toColumnSchema)
        let schema := stmt.schemaBuilder.build 0 keysFirst
        let skv := deriveSKVSchemaFromTableInfo "t" schema
        let desc := PgTableDesc.ofSchema "c" "t" 16385 0 schema
        stmt.schemaBuilder.buildSchema = .ok schema.toTableSchema ∧
        schema.columns = columns ∧
        (∀ i (h : i < columns.length), i < schema.numKeyColumns ↔ columns[i].isKey = true) ∧
        schema.columnIds = (List.range columns.length).map Int.ofNat ∧
        skv.partitionKeyFields = List.range (schema.numKeyColumns + 2) ∧
        (∀ i (h : i < columns.length),
          (skv.fields[i + SKV_FIELD_OFFSET]?).map SchemaField.name = some columns[i].name) ∧
        (∀ databaseId databaseName databaseOid tableOid tableName isSharedTable copiedMaxColId,
          let table := SqlCatalogManager.newTableInfo databaseId databaseName databaseOid tableOid
            tableName schema.toTableSchema false isSharedTable copiedMaxColId
          (TableInfoHandler.deriveSKVSchemaFromTableInfo table).fields = skv.fields ∧
            (TableInfoHandler.deriveSKVSchemaFromTableInfo table).partitionKeyFields =
              skv.partitionKeyFields) ∧
        (∀ i (h : i < desc.columns.length),
          desc.columns[i].isPrimary = true ↔ i < schema.numKeyColumns) ∧
        ∀ attrNum column, desc.findColumn attrNum = .ok column →
          (skv.fields[column.index + SKV_FIELD_OFFSET]?).map SchemaField.name = some column.name ∧
            (column.index + SKV_FIELD_OFFSET ∈ skv.partitionKeyFields ↔ column.isPrimary = true) :=
  ⟨_, rfl, createTable_keyLayout false false [hashKeyCall] [textValueCall] (by decide) (by decide)
    rfl "t" "c" 16385 0⟩

end ChogoriSql
