import ChogoriSql.Catalog.CreateIndex
import ChogoriSql.Numeric.Hex

/-! The catalog's entities: `TableInfo`, `IndexInfo` and `IndexColumn` of `entities/table.h` and
`entities/index.h`, the object ids `PgObjectId` derives from oids, the `Schema` that
`Schema::Reset` builds from columns, ids and a key count, and the entities
`SqlCatalogManager::CreateTable` and `TableInfoHandler::CreateIndexTable` make.

`Schema`'s copy constructor copies neither `version_` nor `max_col_id_`: a copy has version 0,
and the `max_col_id()` that `CreateTable` reads from its copy of the request's schema is not
determined by the program.  The model takes it as a parameter. -/

namespace ChogoriSql

def kPgInvalidOid : UInt32 := 0

def kUuidVersion : UInt8 := 3

def oidBytes (oid : UInt32) : List UInt8 :=
  [(oid >>> 24 &&& 0xFF).toUInt8, (oid >>> 16 &&& 0xFF).toUInt8, (oid >>> 8 &&& 0xFF).toUInt8,
    (oid &&& 0xFF).toUInt8]

def uuidVersionByte : UInt8 := ((0 : UInt8) &&& 0x0F) ||| (kUuidVersion <<< (4 : UInt8))

def uuidVariantByte : UInt8 := ((0 : UInt8) &&& 0xBF) ||| 0x80

def pgUuidBytes (databaseOid tableOid : UInt32) : List UInt8 :=
  oidBytes databaseOid ++ [0, 0, uuidVersionByte, 0, uuidVariantByte, 0, 0, 0] ++ oidBytes tableOid

def hexChars : List Char := "0123456789abcdef".toList

def b2aHex (bytes : List UInt8) : String :=
  String.ofList (bytes.flatMap fun (byte : UInt8) =>
    [hexChars.getD (byte >>> 4).toNat '0', hexChars.getD (byte &&& 0xf).toNat '0'])

def PgObjectId.getTableUuid (databaseOid tableOid : UInt32) : String :=
  b2aHex (pgUuidBytes databaseOid tableOid)

def PgObjectId.getTableId (tableOid : UInt32) : String :=
  PgObjectId.getTableUuid kPgInvalidOid tableOid

theorem b2aHex_eq (bytes : List UInt8) :
    b2aHex bytes = String.ofList (bytes.flatMap Hex.encodeByte) := by
  unfold b2aHex
  congr 1
  apply List.flatMap_congr
  intro byte _
  have high : (byte >>> 4).toNat = byte.toNat / 16 := by
    simp [UInt8.toNat_shiftRight, Nat.shiftRight_eq_div_pow]
  have low : (byte &&& 0xf).toNat = byte.toNat % 16 := by
    simp [UInt8.toNat_and]
    exact Nat.and_two_pow_sub_one_eq_mod byte.toNat 4
  have digits : hexChars = Hex.digits := rfl
  rw [high, low, digits]
  rfl

theorem oidBytes_toNat (oid : UInt32) :
    (oidBytes oid).map UInt8.toNat =
      [oid.toNat / 2 ^ 24 % 256, oid.toNat / 2 ^ 16 % 256, oid.toNat / 2 ^ 8 % 256, oid.toNat % 256] := by
  have mask : ∀ n : Nat, (n &&& 255) = n % 256 := fun n => Nat.and_two_pow_sub_one_eq_mod n 8
  simp [oidBytes, UInt32.toNat_shiftRight, Nat.shiftRight_eq_div_pow, mask]

theorem oidBytes_injective {oid other : UInt32} (same : oidBytes oid = oidBytes other) :
    oid = other := by
  have digits := congrArg (List.map UInt8.toNat) same
  rw [oidBytes_toNat, oidBytes_toNat] at digits
  simp only [List.cons.injEq, and_true] at digits
  have oidBound := oid.toNat_lt
  have otherBound := other.toNat_lt
  apply UInt32.toNat_inj.mp
  omega

theorem PgObjectId.getTableId_injective {oid other : UInt32}
    (same : PgObjectId.getTableId oid = PgObjectId.getTableId other) : oid = other := by
  unfold PgObjectId.getTableId PgObjectId.getTableUuid at same
  rw [b2aHex_eq, b2aHex_eq] at same
  have bytes := Hex.encode_injective (String.ofList_injective same)
  unfold pgUuidBytes at bytes
  exact oidBytes_injective (List.append_cancel_left bytes)

theorem PgObjectId.getTableUuid_databaseOid_injective {databaseOid other tableOid : UInt32}
    (same : PgObjectId.getTableUuid databaseOid tableOid = PgObjectId.getTableUuid other tableOid) :
    databaseOid = other := by
  unfold PgObjectId.getTableUuid at same
  rw [b2aHex_eq, b2aHex_eq] at same
  have bytes := Hex.encode_injective (String.ofList_injective same)
  unfold pgUuidBytes at bytes
  exact oidBytes_injective (List.append_cancel_right (List.append_cancel_right bytes))

inductive IndexPermissions where
  | INDEX_PERM_DELETE_ONLY
  | INDEX_PERM_WRITE_AND_DELETE
  | INDEX_PERM_DO_BACKFILL
  | INDEX_PERM_READ_WRITE_AND_DELETE
  | INDEX_PERM_WRITE_AND_DELETE_WHILE_REMOVING
  | INDEX_PERM_DELETE_ONLY_WHILE_REMOVING
  | INDEX_PERM_INDEX_UNUSED
  | INDEX_PERM_NOT_USED
  deriving DecidableEq, Repr

structure IndexColumn where
  columnId : Int
  columnName : String
  type : K2SqlDataType
  isNullable : Bool
  isHash : Bool
  isRange : Bool
  order : Int
  sortingType : SortingType
  baseColumnId : Int
  deriving DecidableEq, Repr

structure IndexInfo where
  tableName : String
  tableOid : UInt32
  tableUuid : String
  baseTableId : String
  schemaVersion : UInt32
  isUnique : Bool
  isShared : Bool
  columns : List IndexColumn
  indexPermissions : IndexPermissions
  deriving DecidableEq, Repr

def IndexInfo.tableId (index : IndexInfo) : String :=
  PgObjectId.getTableId index.tableOid

structure TableSchema where
  columns : List ColumnSchema
  columnIds : List Int
  numKeyColumns : Nat
  version : UInt32 := 0
  deriving DecidableEq, Repr

def TableSchema.copy (schema : TableSchema) : TableSchema :=
  { schema with version := 0 }

/-- `TableInfo`.  The `IndexMap` is an `unordered_map` from index ids, kept here as the list of
its entries. -/
structure TableInfo where
  databaseId : String
  databaseName : String
  tableOid : UInt32
  tableName : String
  tableUuid : String
  schema : TableSchema
  nextColumnId : Int := 0
  isSysTable : Bool := false
  isShared : Bool := false
  indexMap : List (String × IndexInfo) := []
  deriving DecidableEq, Repr

namespace TableInfo

def tableId (table : TableInfo) : String :=
  PgObjectId.getTableId table.tableOid

def addSecondaryIndex (table : TableInfo) (indexId : String) (index : IndexInfo) : TableInfo :=
  if (table.indexMap.lookup indexId).isSome then table
  else { table with indexMap := table.indexMap ++ [(indexId, index)] }

theorem mem_addSecondaryIndex {table : TableInfo} {indexId : String} {index : IndexInfo}
    {entry : String × IndexInfo} (member : entry ∈ (table.addSecondaryIndex indexId index).indexMap) :
    entry ∈ table.indexMap ∨ entry = (indexId, index) := by
  unfold addSecondaryIndex at member
  split at member
  · exact .inl member
  · rcases List.mem_append.mp member with old | new
    · exact .inl old
    · exact .inr (List.mem_singleton.mp new)

theorem foldl_addSecondaryIndex :
    ∀ (entries : List (String × IndexInfo)) (table : TableInfo),
      ((table.indexMap ++ entries).map Prod.fst).Nodup →
      entries.foldl (fun table entry => table.addSecondaryIndex entry.1 entry.2) table =
        { table with indexMap := table.indexMap ++ entries }
  | [], table, _ => by simp
  | entry :: rest, table, distinct => by
      have absent : table.indexMap.lookup entry.1 = none := by
        rw [List.lookup_eq_none_iff]
        intro present member
        have split := distinct
        rw [List.map_append, List.map_cons, List.nodup_append] at split
        have differs := split.2.2 present.1 (List.mem_map_of_mem member) entry.1 List.mem_cons_self
        exact bne_iff_ne.mpr (Ne.symm differs)
      have added : table.addSecondaryIndex entry.1 entry.2 =
          { table with indexMap := table.indexMap ++ [entry] } := by
        unfold addSecondaryIndex
        rw [absent]
        rfl
      have grown : (({ table with indexMap := table.indexMap ++ [entry] } : TableInfo).indexMap ++
          rest).map Prod.fst = (table.indexMap ++ entry :: rest).map Prod.fst := by
        simp
      rw [List.foldl_cons, added, foldl_addSecondaryIndex rest _ (grown ▸ distinct)]
      simp

def clone (table : TableInfo) (databaseId databaseName tableUuid tableName : String) : TableInfo :=
  table.indexMap.foldl (fun cloned entry => cloned.addSecondaryIndex entry.1 entry.2)
    { databaseId, databaseName, tableOid := table.tableOid, tableName, tableUuid,
      schema := table.schema.copy, nextColumnId := table.nextColumnId,
      isSysTable := table.isSysTable }

theorem clone_eq {table : TableInfo} (distinct : (table.indexMap.map Prod.fst).Nodup)
    (databaseId databaseName tableUuid tableName : String) :
    table.clone databaseId databaseName tableUuid tableName =
      { databaseId, databaseName, tableOid := table.tableOid, tableName, tableUuid,
        schema := table.schema.copy, nextColumnId := table.nextColumnId,
        isSysTable := table.isSysTable, indexMap := table.indexMap } := by
  unfold clone
  rw [foldl_addSecondaryIndex table.indexMap _ (by simpa using distinct)]
  rfl

end TableInfo

/-- `Schema::Reset(cols, ids, key_columns)`.  A failed check is a crash through `CHECK_OK` in
every caller.  The range columns after the hash columns default to `kAscending`; the count of
hash columns is the count of columns whose `is_key()` holds, hash or primary. -/
def TableSchema.reset (cols : List ColumnSchema) (ids : List Int) (keyColumns : Nat) :
    Except String TableSchema :=
  let numHashKeyColumns := cols.countP fun column => column.isHash || column.isKey
  if cols.length < keyColumns then throw "Bad schema: More key columns than columns"
  else if !ids.isEmpty && ids.length != cols.length then
    throw "Bad schema: The number of ids does not match with the number of columns"
  else if (cols.take keyColumns).any (·.isNullable) then
    throw "Bad schema: Nullable key columns are not supported"
  else if !(cols.map ColumnSchema.name).Nodup then throw "Bad schema: Duplicate column name"
  else
    let defaulted := cols.mapIdx fun i column =>
      if numHashKeyColumns ≤ i && i < keyColumns && column.sortingType == .kNotSpecified then
        { column with sortingType := .kAscending }
      else column
    pure { columns := defaulted, columnIds := ids, numKeyColumns := keyColumns }

theorem TableSchema.reset_of_keysFirst {cols : List ColumnSchema} {ids : List Int} {keyColumns : Nat}
    (keysFirst : KeysFirst cols keyColumns) (idsLength : ids.length = cols.length) :
    TableSchema.reset cols ids keyColumns =
      if (cols.take keyColumns).any (·.isNullable) then
        throw "Bad schema: Nullable key columns are not supported"
      else pure { columns := cols, columnIds := ids, numKeyColumns := keyColumns } := by
  have notShort : ¬ cols.length < keyColumns := by
    have bound := keysFirst.numKeyColumns_le
    omega
  have hashCount : keyColumns ≤ cols.countP (fun column => column.isHash || column.isKey) := by
    rw [← keysFirst.countP_isKey]
    apply List.countP_mono_left
    intro column _ isKey
    simp [isKey]
  have unchanged : (cols.mapIdx fun i column =>
      if cols.countP (fun column => column.isHash || column.isKey) ≤ i && i < keyColumns &&
          column.sortingType == .kNotSpecified then
        { column with sortingType := .kAscending }
      else column) = cols := by
    apply List.ext_getElem (by simp)
    intro i _ _
    have outside : ¬ (cols.countP (fun column => column.isHash || column.isKey) ≤ i ∧ i < keyColumns) := by
      omega
    simp only [List.getElem_mapIdx]
    have kept : ¬ (cols.countP (fun column => column.isHash || column.isKey) ≤ i && i < keyColumns &&
        cols[i].sortingType == .kNotSpecified) = true := by
      simp only [Bool.and_eq_true, decide_eq_true_eq]
      exact fun ⟨⟨low, high⟩, _⟩ => outside ⟨low, high⟩
    rw [if_neg kept]
  unfold TableSchema.reset
  simp only [notShort, Bool.false_eq_true, if_false, idsLength, bne_self_eq_false,
    Bool.and_false, keysFirst.namesNodup, decide_true, Bool.not_true]
  split
  · rfl
  · rw [unchanged]

theorem TableSchema.reset_columnIds {cols : List ColumnSchema} {ids : List Int} {keyColumns : Nat}
    {schema : TableSchema} (reset : TableSchema.reset cols ids keyColumns = .ok schema) :
    schema.columnIds = ids := by
  unfold TableSchema.reset at reset
  dsimp only at reset
  split at reset
  · cases reset
  split at reset
  · cases reset
  split at reset
  · cases reset
  split at reset
  · cases reset
  cases reset
  rfl

def SchemaBuilder.buildSchema (builder : SchemaBuilder) : Except String TableSchema :=
  TableSchema.reset builder.cols builder.colIds builder.numKeyColumns

namespace TableSchema

def findColumnById (schema : TableSchema) (id : Int) : Option ColumnSchema :=
  (schema.columnIds.idxOf? id).bind fun i => schema.columns[i]?

def findColumnIdByName (schema : TableSchema) (name : String) : Option Int :=
  (schema.columns.findIdx? (·.name == name)).bind fun i => schema.columnIds[i]?

end TableSchema

def SqlCatalogManager.newTableInfo (databaseId databaseName : String) (databaseOid tableOid : UInt32)
    (tableName : String) (schema : TableSchema) (isSysCatalogTable isSharedTable : Bool)
    (copiedMaxColId : Int) : TableInfo :=
  let tableSchema := { schema.copy with version := 0 + 1 }
  { databaseId, databaseName, tableOid, tableName,
    tableUuid := PgObjectId.getTableUuid databaseOid tableOid,
    schema := tableSchema.copy,
    nextColumnId := copiedMaxColId + 1, isSysTable := isSysCatalogTable,
    isShared := isSharedTable }

def isIndexSystemColumn (name : String) : Bool :=
  name == "k2pguniqueidxkeysuffix" || name == "k2pgidxbasectid"

def indexColumnOfId (base : TableInfo) (indexSchema : TableSchema) (colId : Int) :
    Except String IndexColumn := do
  let some colSchema := indexSchema.findColumnById colId
    | throw (String.ofList (("Cannot find column with id ".toList).drop colId.toNat))
  let baseColumnId ← if isIndexSystemColumn colSchema.name then pure (-1)
    else match base.schema.findColumnIdByName colSchema.name with
      | some id => pure id
      | none => throw ("Cannot find column id in base table with name " ++ colSchema.name)
  pure { columnId := colId, columnName := colSchema.name, type := colSchema.type,
         isNullable := colSchema.isNullable, isHash := colSchema.isHash,
         isRange := colSchema.isKey && !colSchema.isHash, order := colSchema.order,
         sortingType := colSchema.sortingType, baseColumnId }

/-- `TableInfoHandler::BuildIndexInfo(base_table_info, index_name, table_oid, index_uuid,
index_schema, is_unique, is_shared, index_permissions)`: one column for each id of the index
schema, in the order of the ids. -/
def TableInfoHandler.buildIndexInfo (base : TableInfo) (indexName : String) (tableOid : UInt32)
    (indexUuid : String) (indexSchema : TableSchema) (isUnique isShared : Bool)
    (indexPermissions : IndexPermissions) : Except String IndexInfo := do
  let columns ← indexSchema.columnIds.mapM (indexColumnOfId base indexSchema)
  pure { tableName := indexName, tableOid, tableUuid := indexUuid, baseTableId := base.tableId,
         schemaVersion := indexSchema.version, isUnique, isShared, columns, indexPermissions }

theorem TableInfoHandler.indexColumnOfId_columnId {base : TableInfo} {indexSchema : TableSchema}
    {colId : Int} {column : IndexColumn} (found : indexColumnOfId base indexSchema colId = .ok column) :
    column.columnId = colId := by
  unfold indexColumnOfId at found
  split at found
  · dsimp only at found
    split at found
    · cases found
      rfl
    · split at found
      · cases found
        rfl
      · cases found
  · cases found

theorem TableInfoHandler.mapM_indexColumnOfId (base : TableInfo) (indexSchema : TableSchema) :
    ∀ (ids : List Int) (columns : List IndexColumn),
      ids.mapM (indexColumnOfId base indexSchema) = .ok columns → columns.map IndexColumn.columnId = ids
  | [], columns, mapped => by
      cases mapped
      rfl
  | id :: rest, columns, mapped => by
      rw [List.mapM_cons] at mapped
      obtain ⟨column, found, restMapped⟩ := Except.bind_eq_ok mapped
      obtain ⟨others, othersMapped, made⟩ := Except.bind_eq_ok restMapped
      simp only [pure, Except.pure, Except.ok.injEq] at made
      subst made
      rw [List.map_cons, indexColumnOfId_columnId found,
        mapM_indexColumnOfId base indexSchema rest others othersMapped]

theorem TableInfoHandler.buildIndexInfo_ok {base : TableInfo} {indexName indexUuid : String}
    {tableOid : UInt32} {indexSchema : TableSchema} {isUnique isShared : Bool}
    {indexPermissions : IndexPermissions} {index : IndexInfo}
    (built : buildIndexInfo base indexName tableOid indexUuid indexSchema isUnique isShared
      indexPermissions = .ok index) :
    index.tableOid = tableOid ∧ index.baseTableId = base.tableId ∧
      index.columns.map IndexColumn.columnId = indexSchema.columnIds := by
  unfold buildIndexInfo at built
  obtain ⟨columns, mapped, made⟩ := Except.bind_eq_ok built
  simp only [pure, Except.pure, Except.ok.injEq] at made
  subst made
  exact ⟨rfl, rfl, mapM_indexColumnOfId base indexSchema _ columns mapped⟩

theorem TableInfoHandler.buildIndexInfo_ok_names {base : TableInfo} {indexName indexUuid : String}
    {tableOid : UInt32} {indexSchema : TableSchema} {isUnique isShared : Bool}
    {indexPermissions : IndexPermissions} {index : IndexInfo}
    (built : buildIndexInfo base indexName tableOid indexUuid indexSchema isUnique isShared
      indexPermissions = .ok index) :
    index.tableName = indexName ∧ index.tableUuid = indexUuid := by
  unfold buildIndexInfo at built
  obtain ⟨columns, _, made⟩ := Except.bind_eq_ok built
  simp only [pure, Except.pure, Except.ok.injEq] at made
  subst made
  exact ⟨rfl, rfl⟩

structure CreateIndexTableParams where
  indexName : String
  tableOid : UInt32
  indexSchema : TableSchema
  isUnique : Bool
  isShared : Bool
  isNotExist : Bool
  deriving DecidableEq, Repr

/-- The parameters `SqlCatalogManager::CreateIndexTable` fills from its request; the index schema
is assigned, a copy. -/
def SqlCatalogManager.createIndexTableParams (tableName : String) (tableOid : UInt32)
    (schema : TableSchema) (isUnique isSharedTable isNotExist : Bool) : CreateIndexTableParams :=
  { indexName := tableName, tableOid, indexSchema := schema.copy, isUnique,
    isShared := isSharedTable, isNotExist }

inductive CreateIndexTableError where
  | alreadyPresent (indexId : String)
  | runtimeError (message : String)
  deriving DecidableEq, Repr

def TableInfoHandler.createIndexTable (databaseId : String) (databaseOid : UInt32) (base : TableInfo)
    (params : CreateIndexTableParams) : Except CreateIndexTableError (IndexInfo × TableInfo) := do
  let indexTableId := PgObjectId.getTableId params.tableOid
  let indexTableUuid := PgObjectId.getTableUuid databaseOid params.tableOid
  match base.indexMap.lookup indexTableId with
  | some existing =>
      if params.isNotExist then pure (existing, base) else throw (.alreadyPresent indexTableId)
  | none =>
      match TableInfoHandler.buildIndexInfo base databaseId params.tableOid indexTableUuid
          params.indexSchema params.isUnique params.isShared .INDEX_PERM_READ_WRITE_AND_DELETE with
      | .error message => throw (.runtimeError message)
      | .ok index => pure (index, base.addSecondaryIndex index.tableId index)

theorem TableInfoHandler.createIndexTable_cases {databaseId : String} {databaseOid : UInt32}
    {base next : TableInfo} {params : CreateIndexTableParams} {index : IndexInfo}
    (created : createIndexTable databaseId databaseOid base params = .ok (index, next)) :
    next = base ∨
      base.indexMap.lookup (PgObjectId.getTableId params.tableOid) = none ∧
      buildIndexInfo base databaseId params.tableOid (PgObjectId.getTableUuid databaseOid params.tableOid)
        params.indexSchema params.isUnique params.isShared .INDEX_PERM_READ_WRITE_AND_DELETE = .ok index ∧
      next = base.addSecondaryIndex index.tableId index := by
  unfold createIndexTable at created
  dsimp only at created
  split at created
  · split at created
    · cases created
      exact .inl rfl
    · cases created
  · rename_i absent
    split at created
    · cases created
    · rename_i built
      cases created
      exact .inr ⟨absent, built, rfl⟩

end ChogoriSql
